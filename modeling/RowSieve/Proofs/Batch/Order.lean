import Mathlib.Data.List.Infix
import RowSieve.Proofs.Batch.Conservation

/-!
# One worker keeps the order

A network with one worker is two queues with a worker between them.  Written down from the printer
back to the feeder, the reports that are printed, those that are not and the records that no worker
has taken are the outcomes of the records that have been read, in the order of the table
(`Network.InLine`).  Every move keeps this up as long as the worker is there, and when the worker
leaves early the reports stay what the first records give (`Network.InLine.move`).

So what is printed at the end is what the first records of the table give, and all of them unless
enough rows are printed (`Network.Done.exists_prefix`).
-/

namespace RowSieve

/-- The record that the feeder has for the queue. -/
def Feeder.carried : Feeder → List Record
  | holding r => [r]
  | _ => []

/-- The report that a worker has for the printer. -/
def Hand.carried : Hand → List Report
  | reporting report _ => [report]
  | _ => []

@[simp] theorem Hand.carried_waiting (drains : Bool) : (waiting drains).carried = [] := by
  cases drains <;> rfl

namespace Network

variable {job : Job} {header : List String} {table : Table} {s t : Network} {index : Nat}
  {hand : Hand} {past : List (Except LineError Record)} {printed printed' : List Report}

/-- The reports there are, from the first that was printed to the one in the worker's hand. -/
def reported (s : Network) (printed : List Report) : List Report :=
  printed ++ s.reports ++ s.workers.flatMap Hand.carried

/-- The records that no worker has taken, in order. -/
def waiting (s : Network) : List Record := s.queue ++ s.feeder.carried

/-- The records that have been read are in line. -/
structure InLine (job : Job) (header : List String) (table : Table) (s : Network)
    (past : List (Except LineError Record)) (printed : List Report) : Prop where
  /-- The entries that have been read come first in the table. -/
  entries : table.entries = past ++ s.entries
  /-- The reports are printed in a row. -/
  printout : s.printout = printed.foldl (Printout.add job) .empty
  /-- The last one was printed while rows were wanted. -/
  wanted : ∀ before report, printed = before ++ [report] →
    (before.foldl (Printout.add job) .empty).full job = false
  /-- The reports are the outcomes of the first records. -/
  reported : (s.reported printed).map .ok <+:
    (past.filterMap Except.toOption).map (job.report header)
  /-- The outcomes of all others are those of the records that wait, while the worker is there and
  while nothing was lost. -/
  waiting : s.deserted = false ∨ ¬ s.Interrupted job →
    (s.reported printed).map .ok ++ s.waiting.map (job.report header) =
      (past.filterMap Except.toOption).map (job.report header)

theorem inLine_start (job : Job) (header : List String) (table : Table) :
    InLine job header table (start job table) [] [] := by
  have hcarried : (List.replicate (max 1 job.workers) Hand.idle).flatMap Hand.carried = [] :=
    List.flatMap_eq_nil_iff.2 fun hand h => by
      rw [List.eq_of_mem_replicate h]
      rfl
  have hreported : (start job table).reported [] = [] := hcarried
  refine ⟨rfl, rfl, fun before report h => ?_, ?_, fun _ => ?_⟩
  · simp at h
  · rw [hreported]
    exact List.nil_prefix
  · rw [hreported]
    rfl

/-- The only worker is the one that does something. -/
theorem eq_singleton_of_getElem? (hone : s.workers.length = 1)
    (hw : s.workers[index]? = some hand) : index = 0 ∧ s.workers = [hand] := by
  obtain ⟨only, honly⟩ := List.length_eq_one_iff.1 hone
  rw [honly] at hw
  cases index with
  | zero =>
    cases hw
    exact ⟨rfl, honly⟩
  | succ => simp at hw

/-- What the only worker has for the printer when it takes another place. -/
theorem reported_put (hone : s.workers.length = 1) (hw : s.workers[index]? = some hand)
    (new : Hand) (printed : List Report) :
    (s.put index new).reported printed = printed ++ s.reports ++ new.carried := by
  obtain ⟨rfl, honly⟩ := eq_singleton_of_getElem? hone hw
  simp [reported, put, honly]

theorem reported_eq (hone : s.workers.length = 1) (hw : s.workers[index]? = some hand)
    (printed : List Report) : s.reported printed = printed ++ s.reports ++ hand.carried := by
  obtain ⟨-, honly⟩ := eq_singleton_of_getElem? hone hw
  simp [reported, honly]

theorem deserted_put (hone : s.workers.length = 1) (hw : s.workers[index]? = some hand)
    (new : Hand) : (s.put index new).deserted = new.hasLeft := by
  obtain ⟨rfl, honly⟩ := eq_singleton_of_getElem? hone hw
  simp [deserted, put, honly]

/-- A move that reads an entry of the table puts a record at the end of the line, if it is one. -/
theorem InLine.entry (h : InLine job header table s past printed) (e : Except LineError Record)
    (hentries : s.entries = e :: t.entries) (hprintout : t.printout = s.printout)
    (hreported : t.reported printed = s.reported printed)
    (hwaiting : t.waiting = s.waiting ++ [e].filterMap Except.toOption)
    (hthere : t.deserted = false ∨ ¬ t.Interrupted job → s.deserted = false ∨ ¬ s.Interrupted job) :
    InLine job header table t (past ++ [e]) printed where
  entries := by rw [h.entries, hentries, List.append_assoc, List.singleton_append]
  printout := hprintout.trans h.printout
  wanted := h.wanted
  reported := by
    rw [hreported, List.filterMap_append, List.map_append]
    exact h.reported.trans (List.prefix_append _ _)
  waiting ht := by
    rw [hreported, hwaiting, List.filterMap_append, List.map_append, List.map_append,
      ← List.append_assoc, h.waiting (hthere ht)]

/-- Most moves only carry reports and records on, and keep the line. -/
theorem InLine.carry (h : InLine job header table s past printed)
    (hentries : t.entries = s.entries)
    (hprintout : t.printout = printed'.foldl (Printout.add job) .empty)
    (hwanted : ∀ before report, printed' = before ++ [report] →
      (before.foldl (Printout.add job) .empty).full job = false)
    (hreported : t.reported printed' = s.reported printed) (hwaiting : t.waiting = s.waiting)
    (hthere : t.deserted = false ∨ ¬ t.Interrupted job → s.deserted = false ∨ ¬ s.Interrupted job) :
    InLine job header table t past printed' where
  entries := hentries ▸ h.entries
  printout := hprintout
  wanted := hwanted
  reported := hreported ▸ h.reported
  waiting ht := by rw [hreported, hwaiting, h.waiting (hthere ht)]

theorem InLine.carry_of_eq (h : InLine job header table s past printed)
    (hentries : t.entries = s.entries) (hprintout : t.printout = s.printout)
    (hreported : t.reported printed = s.reported printed) (hwaiting : t.waiting = s.waiting)
    (hthere : t.deserted = false ∨ ¬ t.Interrupted job → s.deserted = false ∨ ¬ s.Interrupted job) :
    InLine job header table t past printed :=
  h.carry hentries (hprintout.trans h.printout) h.wanted hreported hwaiting hthere

/-- Once the worker has left an interrupted network, only what is printed matters. -/
theorem InLine.lose (h : InLine job header table s past printed)
    (hentries : t.entries = s.entries) (hprintout : t.printout = s.printout)
    (hreported : t.reported printed <+: s.reported printed) (hdeserted : t.deserted = true)
    (hinterrupted : t.Interrupted job) : InLine job header table t past printed where
  entries := hentries ▸ h.entries
  printout := hprintout.trans h.printout
  wanted := h.wanted
  reported := (hreported.map _).trans h.reported
  waiting ht := by simp [hdeserted, hinterrupted] at ht

/-- **Every move keeps the line.** -/
theorem InLine.move (h : InLine job header table s past printed) (ho : s.Orderly job)
    (hone : s.workers.length = 1) (hm : Move job header s t) :
    ∃ past printed, InLine job header table t past printed := by
  -- An interruption lasts, so only the worker matters.
  have hthere : (t.deserted = false → s.deserted = false) →
      (t.deserted = false ∨ ¬ t.Interrupted job → s.deserted = false ∨ ¬ s.Interrupted job) :=
    fun hstays => Or.imp hstays fun hi hs => hi (hs.move ho hm)
  cases hm with
  | @read r entries hf he =>
    refine ⟨past ++ [.ok r], printed, ?_⟩
    refine h.entry (.ok r) he rfl rfl ?_ (hthere id)
    simp [Network.waiting, hf, Feeder.carried, Except.toOption]
  | @skip e entries hf he =>
    refine ⟨past ++ [.error e], printed, ?_⟩
    refine h.entry (.error e) he rfl rfl ?_ (hthere id)
    simp [Network.waiting, Except.toOption]
  | sign hf he =>
    refine ⟨past, printed, h.carry_of_eq rfl rfl rfl ?_ (hthere id)⟩
    simp [Network.waiting, hf, Feeder.carried]
  | @push r hf =>
    refine ⟨past, printed, h.carry_of_eq rfl rfl rfl ?_ (hthere id)⟩
    simp [Network.waiting, hf, Feeder.carried]
  | @giveUp r hf hd =>
    have hinterrupted : s.Interrupted job :=
      ho.interrupted_of_deserted hd (by simp [hf, Feeder.hasSigned])
    exact ⟨past, printed, h.lose rfl rfl (List.prefix_refl _) hd hinterrupted⟩
  | close hf =>
    refine ⟨past, printed, h.carry_of_eq rfl rfl rfl ?_ (hthere id)⟩
    simp [Network.waiting, hf, Feeder.carried]
  | heed hw hs =>
    refine ⟨past, printed, h.carry_of_eq rfl rfl ?_ rfl
      (hthere fun _ => deserted_eq_false hw rfl)⟩
    rw [reported_put hone hw, reported_eq hone hw]
    rfl
  | @take i drains r queue hw hq =>
    have hreported := reported_eq hone hw printed
    have hline := h.waiting (.inl (deserted_eq_false hw (by simp)))
    rw [hreported, Hand.carried_waiting, List.append_nil, Network.waiting, hq, List.cons_append,
      List.map_cons] at hline
    have hput : ∀ new, Network.reported { s.put i new with queue := queue } printed =
        printed ++ s.reports ++ new.carried := fun new => reported_put hone hw new printed
    cases houtcome : job.report header r with
    | ok report =>
      rw [houtcome] at hline
      have hhandle : handle job header r drains = .reporting report drains := by
        simp [handle, houtcome]
      rw [hhandle]
      -- The outcome of the first record in the queue is now in the worker's hand.
      have hmoved : ((printed ++ s.reports ++ [report]).map Except.ok ++
          (queue ++ s.feeder.carried).map (job.report header)) =
          (past.filterMap Except.toOption).map (job.report header) := by
        rw [← hline]
        simp
      refine ⟨past, printed, h.entries, h.printout, h.wanted, ?_, fun _ => ?_⟩
      · rw [hput]
        exact ⟨_, hmoved⟩
      · rw [hput]
        exact hmoved
    | error c =>
      have hhandle : handle job header r drains = .crashed := by simp [handle, houtcome]
      rw [hhandle]
      refine ⟨past, printed, h.lose rfl rfl ?_ (deserted_put hone hw .crashed) (.inl ?_)⟩
      · rw [hput, hreported, Hand.carried_waiting]
        exact List.prefix_refl _
      · obtain ⟨hi, -⟩ := List.getElem?_eq_some_iff.1 hw
        exact List.mem_set hi _
  | @leave i drains hw hq hc =>
    refine ⟨past, printed, h.carry_of_eq rfl rfl ?_ rfl
      (hthere fun _ => deserted_eq_false hw (by simp))⟩
    rw [reported_put hone hw, reported_eq hone hw, Hand.carried_waiting]
    rfl
  | @report i report drains hw hl =>
    refine ⟨past, printed, h.carry_of_eq rfl rfl ?_ rfl
      (hthere fun _ => deserted_eq_false hw rfl)⟩
    have hput := reported_put (s := { s with reports := s.reports ++ [report] }) hone hw
      (.waiting drains) printed
    rw [reported_eq hone hw]
    refine hput.trans ?_
    rw [Hand.carried_waiting, List.append_nil, ← List.append_assoc]
    rfl
  | @withhold i report drains hw hl =>
    refine ⟨past, printed, h.lose rfl rfl ?_ (deserted_put hone hw .gone)
      (.inr (ho.full_of_stopped (ho.hungUp hl) (deserted_eq_false hw rfl)))⟩
    rw [reported_put hone hw, reported_eq hone hw]
    simp [Hand.carried]
  | @print report reports hp hr =>
    refine ⟨past, printed ++ [report], h.carry rfl ?_ (fun before last hbefore => ?_) ?_ rfl
      (hthere id)⟩
    · rw [List.foldl_append, ← h.printout]
      rfl
    · obtain ⟨rfl, -⟩ := List.append_inj' hbefore rfl
      rw [← h.printout]
      exact ho.printing hp
    · simp [Network.reported, hr]
  | stop => exact ⟨past, printed, h.carry_of_eq rfl rfl rfl rfl (hthere id)⟩
  | hangUp => exact ⟨past, printed, h.carry_of_eq rfl rfl rfl rfl (hthere id)⟩

/-- **At any time**, the records of one worker are in line. -/
theorem Steps.exists_inLine (hone : job.workers ≤ 1) (h : Steps job header (start job table) s) :
    s.Orderly job ∧ ∃ past printed, InLine job header table s past printed := by
  generalize hstart : start job table = first at h
  induction h with
  | refl =>
    subst hstart
    exact ⟨orderly_start job table, [], [], inLine_start job header table⟩
  | tail _ hstep ih =>
    obtain ⟨ho, past, printed, hl⟩ := ih
    have hstaffed := ho.staffed
    exact ⟨ho.move hstep.move, hl.move ho (by omega) hstep.move⟩

/-- **What one worker prints are the reports of the first records**, and all of them unless enough
rows are printed. -/
theorem Done.exists_prefix (hone : job.workers ≤ 1)
    (hrun : Steps job header (start job table) s) (hdone : s.Done) (hcrash : ¬ s.Crashed) :
    ∃ printed, s.printout = printed.foldl (Printout.add job) .empty ∧
      (∀ before report, printed = before ++ [report] →
        (before.foldl (Printout.add job) .empty).full job = false) ∧
      printed.map .ok <+: (Job.recordsOf table).map (job.report header) ∧
      (s.printout.full job = false →
        printed.map .ok = (Job.recordsOf table).map (job.report header)) := by
  obtain ⟨ho, past, printed, hl⟩ := hrun.exists_inLine hone
  refine ⟨printed, hl.printout, hl.wanted, ?_, fun hfull => ?_⟩
  · have hprinted : printed <+: s.reported printed :=
      (List.prefix_append printed s.reports).trans (List.prefix_append _ _)
    have hpast : past.filterMap Except.toOption <+: Job.recordsOf table := by
      rw [Job.recordsOf, hl.entries, List.filterMap_append]
      exact List.prefix_append _ _
    exact ((hprinted.map _).trans hl.reported).trans (hpast.map _)
  · have hi : ¬ s.Interrupted job := not_interrupted hcrash hfull
    have hexhausted := ho.exhausted hdone hi
    have hpast : past = table.entries := by rw [hl.entries, hexhausted.entries, List.append_nil]
    have hcarried : s.workers.flatMap Hand.carried = [] :=
      List.flatMap_eq_nil_iff.2 fun hand hw => by rw [hexhausted.workers hand hw]; rfl
    have hline := hl.waiting (.inr hi)
    simpa [Network.reported, Network.waiting, hexhausted.reports, hexhausted.queue,
      hexhausted.feeder, hcarried, Feeder.carried, hpast, Job.recordsOf] using hline

end Network

end RowSieve

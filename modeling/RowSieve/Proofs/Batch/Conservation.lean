import Mathlib.Algebra.BigOperators.Group.List.Basic
import Mathlib.Algebra.Order.Group.Multiset
import Mathlib.Tactic.Abel
import RowSieve.Proofs.Batch.Moves

/-!
# No record is lost

However the feeder, the workers and the printer of a network take turns, a network that comes to its
end without an interruption has printed what the records give one after the other, in some order
(`Network.Done.conserves_records`).

`Network.Ledger` accounts for the records that were read: the outcome of each is still to be worked
out, in the hands of a worker, waiting to be printed, printed, or lost.  Every move carries an
outcome from one of these places to the next (`Network.Ledger.move`); only an interrupted network
loses any.
-/

namespace RowSieve

/-! ### Printing reports in a row -/

namespace Report

/-- The line that is printed for a report, if there is one. -/
def line? (job : Job) : Report → Option String
  | emitted line row => some (job.layout.print job.program.outputs line row)
  | _ => none

/-- A filter did not hold. -/
def isFiltered : Report → Bool
  | filtered => true
  | _ => false

/-- The program failed. -/
def isFailed : Report → Bool
  | failed => true
  | _ => false

end Report

namespace Printout

variable {job : Job}

/-- What is printed for reports, and how many there are of each kind. -/
theorem foldl_add (reports : List Report) (p : Printout) :
    reports.foldl (Printout.add job) p =
      { lines := p.lines ++ reports.filterMap (Report.line? job)
        emitted := p.emitted + (reports.filterMap (Report.line? job)).length
        filtered := p.filtered + reports.countP Report.isFiltered
        failed := p.failed + reports.countP Report.isFailed } := by
  induction reports generalizing p with
  | nil => simp
  | cons report reports ih =>
    rw [List.foldl_cons, ih]
    cases report <;>
      simp +arith [add, List.filterMap_cons, List.countP_cons, Report.line?, Report.isFiltered,
        Report.isFailed]

/-- Each report counts once. -/
theorem total_foldl_add (job : Job) (reports : List Report) (p : Printout) :
    let q := reports.foldl (Printout.add job) p
    q.emitted + q.filtered + q.failed = p.emitted + p.filtered + p.failed + reports.length := by
  induction reports generalizing p with
  | nil => rfl
  | cons report reports ih =>
    simp only [List.foldl_cons, List.length_cons] at ih ⊢
    rw [ih]
    cases report <;> simp only [add] <;> omega

end Printout

/-- Without a limit, a job prints the report of each record. -/
theorem Job.process_eq {job : Job} {header : List String} {records : List Record}
    {reports : List Report} (hlimit : job.program.limit = none)
    (h : records.map (job.report header) = reports.map .ok) (p : Printout) :
    job.process header p records = (reports.foldl (Printout.add job) p, none) := by
  induction records generalizing reports p with
  | nil =>
    cases reports with
    | nil => rfl
    | cons => cases h
  | cons r records ih =>
    cases reports with
    | nil => cases h
    | cons report reports =>
      simp only [List.map_cons, List.cons.injEq] at h
      simp [process, h.1, Printout.full, hlimit, ih h.2]

/-- Results without an error are those that succeed. -/
theorem map_ok_filterMap_toOption {ε α : Type} {l : List (Except ε α)}
    (h : ∀ x ∈ l, ∃ a, x = .ok a) : (l.filterMap Except.toOption).map .ok = l := by
  induction l with
  | nil => rfl
  | cons x l ih =>
    obtain ⟨a, rfl⟩ := h x (.head _)
    rw [List.filterMap_cons]
    exact congrArg (Except.ok a :: ·) (ih fun y hy => h y (.tail _ hy))

/-! ### Where the outcomes of records are -/

/-- The record that the feeder has for the queue. -/
def Feeder.held : Feeder → Multiset Record
  | holding r => {r}
  | _ => 0

/-- The report that a worker has for the printer. -/
def Hand.held : Hand → Multiset Report
  | reporting report _ => {report}
  | _ => 0

@[simp] theorem Hand.held_waiting (drains : Bool) : (waiting drains).held = 0 := by
  cases drains <;> rfl

/-- Replacing one summand changes the sum by what is replaced. -/
theorem sum_map_set_add {α M : Type} [AddCommMonoid M] {f : α → M} {l : List α} {i : Nat} {a : α}
    (h : l[i]? = some a) (b : α) : ((l.set i b).map f).sum + f a = (l.map f).sum + f b := by
  induction l generalizing i with
  | nil => simp at h
  | cons c l ih =>
    cases i with
    | zero =>
      obtain rfl : c = a := by simpa using h
      rw [List.set_cons_zero, List.map_cons, List.sum_cons, List.map_cons, List.sum_cons]
      abel
    | succ i =>
      have hset := ih (i := i) (by simpa using h)
      rw [List.set_cons_succ, List.map_cons, List.sum_cons, List.map_cons, List.sum_cons, add_assoc,
        hset, add_assoc]

namespace Network

variable {job : Job} {header : List String} {table : Table} {s t : Network}
  {past : List (Except LineError Record)} {printed : List Report}
  {lost : Multiset (Except Crash Report)}

/-- The records that have been read and that no worker has taken. -/
def untaken (s : Network) : Multiset Record := s.feeder.held + s.queue

/-- The reports that are not printed. -/
def unprinted (s : Network) : Multiset Report := (s.workers.map Hand.held).sum + s.reports

/-- The outcomes of the records that have been read, as far as they are not printed. -/
def due (job : Job) (header : List String) (s : Network) : Multiset (Except Crash Report) :=
  s.untaken.map (job.report header) + s.unprinted.map .ok

/-- A worker that takes another place changes what it has for the printer. -/
theorem due_put (job : Job) (header : List String) {i : Nat} {old : Hand}
    (h : s.workers[i]? = some old) (new : Hand) :
    (s.put i new).due job header + old.held.map .ok = s.due job header + new.held.map .ok := by
  have hset := sum_map_set_add (f := Hand.held) h new
  simp only [due, unprinted, put, add_assoc, ← Multiset.map_add]
  rw [add_comm (s.reports : Multiset Report), ← add_assoc, hset, add_assoc,
    add_comm new.held]
  rfl

/-- A worker that takes a record has its outcome, unless it broke down on the record. -/
theorem due_take {i : Nat} {drains : Bool} {r : Record} {queue : List Record}
    {crashes : Multiset (Except Crash Report)} (hw : s.workers[i]? = some (.waiting drains))
    (hq : s.queue = r :: queue)
    (houtcome : {job.report header r} = (handle job header r drains).held.map .ok + crashes) :
    due job header { s.put i (handle job header r drains) with queue } + crashes =
      s.due job header := by
  have hput := due_put job header hw (handle job header r drains)
  have htaken : (s.put i (handle job header r drains)).due job header =
      due job header { s.put i (handle job header r drains) with queue } +
        {job.report header r} := by
    simp only [due, untaken, unprinted, put, hq, ← Multiset.cons_coe, Multiset.map_add,
      Multiset.map_singleton, ← Multiset.singleton_add]
    abel
  rw [htaken, houtcome, Hand.held_waiting, Multiset.map_zero, add_zero] at hput
  refine add_right_cancel (b := (handle job header r drains).held.map .ok) ?_
  rw [← hput]
  abel

/-- The account of the records that have been read. -/
structure Ledger (job : Job) (header : List String) (table : Table) (s : Network)
    (past : List (Except LineError Record)) (printed : List Report)
    (lost : Multiset (Except Crash Report)) : Prop where
  /-- The entries that have been read come first in the table. -/
  entries : table.entries = past ++ s.entries
  /-- Records are counted. -/
  records : s.records = (past.filterMap Except.toOption).length
  /-- So are other entries. -/
  skipped : s.records + s.skipped = past.length
  /-- The outcome of each record is in one place. -/
  outcomes : Multiset.map (job.report header) (past.filterMap Except.toOption) =
    s.due job header + Multiset.map .ok (printed : Multiset Report) + lost
  /-- The reports are printed in a row. -/
  printout : s.printout = printed.foldl (Printout.add job) .empty
  /-- Nothing is lost without an interruption. -/
  lost : lost ≠ 0 → s.Interrupted job

theorem ledger_start (job : Job) (header : List String) (table : Table) :
    Ledger job header table (start job table) [] [] 0 where
  entries := rfl
  records := rfl
  skipped := rfl
  outcomes := by
    have hidle : ((List.replicate (max 1 job.workers) Hand.idle).map Hand.held).sum = 0 :=
      List.sum_eq_zero fun held h => by
        obtain ⟨hand, hhand, rfl⟩ := List.mem_map.1 h
        rw [List.eq_of_mem_replicate hhand]
        rfl
    simp only [due, untaken, unprinted, start, Feeder.held, hidle]
    rfl
  printout := rfl
  lost h := absurd rfl h

/-- A move that reads an entry of the table adds the outcome of a record, if it is one. -/
theorem Ledger.entry (h : Ledger job header table s past printed lost)
    (e : Except LineError Record) (hentries : s.entries = e :: t.entries)
    (hrecords : t.records = s.records + ([e].filterMap Except.toOption).length)
    (hskipped : t.records + t.skipped = s.records + s.skipped + 1)
    (hprintout : t.printout = s.printout)
    (hdue : t.due job header =
      s.due job header + Multiset.map (job.report header) ([e].filterMap Except.toOption))
    (hlost : lost ≠ 0 → t.Interrupted job) :
    Ledger job header table t (past ++ [e]) printed lost where
  entries := by rw [h.entries, hentries, List.append_assoc, List.singleton_append]
  records := by rw [hrecords, h.records, List.filterMap_append, List.length_append]
  skipped := by rw [hskipped, h.skipped, List.length_append, List.length_singleton]
  outcomes := by
    rw [hdue, List.filterMap_append, ← Multiset.coe_add, Multiset.map_add, h.outcomes]
    abel
  printout := hprintout.trans h.printout
  lost := hlost

/-- A move that reads nothing carries outcomes from one place to the next. -/
theorem Ledger.carry {printed' : List Report} {lost' : Multiset (Except Crash Report)}
    (h : Ledger job header table s past printed lost) (hentries : t.entries = s.entries)
    (hrecords : t.records = s.records) (hskipped : t.skipped = s.skipped)
    (hprintout : t.printout = printed'.foldl (Printout.add job) .empty)
    (hdue : s.due job header + Multiset.map .ok (printed : Multiset Report) + lost =
      t.due job header + Multiset.map .ok (printed' : Multiset Report) + lost')
    (hlost : lost' ≠ 0 → t.Interrupted job) : Ledger job header table t past printed' lost' where
  entries := hentries ▸ h.entries
  records := hrecords ▸ h.records
  skipped := by rw [hrecords, hskipped, h.skipped]
  outcomes := h.outcomes.trans hdue
  printout := hprintout
  lost := hlost

/-- Most moves only change the place of an outcome. -/
theorem Ledger.carry_of_due_eq (h : Ledger job header table s past printed lost)
    (hentries : t.entries = s.entries) (hrecords : t.records = s.records)
    (hskipped : t.skipped = s.skipped) (hprintout : t.printout = s.printout)
    (hdue : t.due job header = s.due job header) (hlost : lost ≠ 0 → t.Interrupted job) :
    Ledger job header table t past printed lost :=
  h.carry hentries hrecords hskipped (hprintout.trans h.printout) (by rw [hdue]) hlost

/-- What a worker makes of a record: a report that it has then, or a loss. -/
theorem exists_held_handle (job : Job) (header : List String) (r : Record) (drains : Bool) :
    ∃ crashes : Multiset (Except Crash Report),
      {job.report header r} = (handle job header r drains).held.map .ok + crashes ∧
      (crashes ≠ 0 → handle job header r drains = .crashed) := by
  unfold handle
  cases h : job.report header r with
  | ok report => exact ⟨0, by simp [Hand.held], fun hne => absurd rfl hne⟩
  | error c => exact ⟨{.error c}, by simp [Hand.held], fun _ => rfl⟩

/-- **Every move carries outcomes from one place to the next**, and loses none unless the network
is interrupted. -/
theorem Ledger.move (h : Ledger job header table s past printed lost) (ho : s.Orderly job)
    (hm : Move job header s t) :
    ∃ past printed lost, Ledger job header table t past printed lost := by
  have hlost : lost ≠ 0 → t.Interrupted job := fun hne => (h.lost hne).move ho hm
  cases hm with
  | @read r entries hf he =>
    refine ⟨past ++ [.ok r], printed, lost, ?_⟩
    refine h.entry (.ok r) he rfl ?_ rfl ?_ hlost
    · exact Nat.add_right_comm s.records 1 s.skipped
    · simp only [due, untaken, unprinted, hf, Feeder.held, zero_add, Multiset.map_add,
        Multiset.map_singleton, Except.toOption, List.filterMap_cons, List.filterMap_nil,
        Multiset.coe_singleton]
      abel
  | @skip e entries hf he =>
    refine ⟨past ++ [.error e], printed, lost, ?_⟩
    exact h.entry (.error e) he rfl rfl rfl (add_zero _).symm hlost
  | sign hf he =>
    refine ⟨past, printed, lost, h.carry_of_due_eq rfl rfl rfl rfl ?_ hlost⟩
    simp only [due, untaken, unprinted, hf, Feeder.held]
  | @push r hf =>
    refine ⟨past, printed, lost, h.carry_of_due_eq rfl rfl rfl rfl ?_ hlost⟩
    simp only [due, untaken, unprinted, hf, Feeder.held, zero_add, ← Multiset.coe_add,
      Multiset.coe_singleton, add_comm]
  | @giveUp r hf hd =>
    -- Before the sign is given, all workers leave only in an interrupted network.
    have hinterrupted : s.Interrupted job :=
      ho.interrupted_of_deserted hd (by simp [hf, Feeder.hasSigned])
    refine ⟨past, printed, lost + {job.report header r},
      h.carry rfl rfl rfl h.printout ?_ fun _ => hinterrupted⟩
    simp only [due, untaken, unprinted, hf, Feeder.held, zero_add, Multiset.map_add,
      Multiset.map_singleton]
    abel
  | close hf =>
    refine ⟨past, printed, lost, h.carry_of_due_eq rfl rfl rfl rfl ?_ hlost⟩
    simp only [due, untaken, unprinted, hf, Feeder.held]
  | heed hw hs =>
    refine ⟨past, printed, lost, h.carry_of_due_eq rfl rfl rfl rfl ?_ hlost⟩
    simpa [Hand.held] using due_put job header hw .draining
  | @take i drains r queue hw hq =>
    obtain ⟨crashes, houtcome, hcrash⟩ := exists_held_handle job header r drains
    have hdue := due_take hw hq houtcome
    refine ⟨past, printed, lost + crashes, h.carry rfl rfl rfl h.printout ?_ fun hne => ?_⟩
    · rw [← hdue]
      abel
    · by_cases hzero : lost = 0
      · rw [hzero, zero_add] at hne
        obtain ⟨hi, -⟩ := List.getElem?_eq_some_iff.1 hw
        refine .inl ?_
        simp only [Crashed, put, ← hcrash hne]
        exact List.mem_set hi _
      · exact hlost hzero
  | @leave i drains hw hq hc =>
    refine ⟨past, printed, lost, h.carry_of_due_eq rfl rfl rfl rfl ?_ hlost⟩
    have hput := due_put job header hw .gone
    rw [Hand.held_waiting] at hput
    simpa [Hand.held] using hput
  | @report i report drains hw hl =>
    refine ⟨past, printed, lost, h.carry_of_due_eq rfl rfl rfl rfl ?_ hlost⟩
    have hput := due_put job header hw (.waiting drains)
    rw [Hand.held_waiting, Multiset.map_zero, add_zero] at hput
    rw [← hput]
    simp only [due, untaken, unprinted, put, Hand.held, ← Multiset.coe_add, Multiset.coe_singleton,
      Multiset.map_add, Multiset.map_singleton]
    abel
  | @withhold i report drains hw hl =>
    have hput := due_put job header hw .gone
    have hdue : (s.put i .gone).due job header + {.ok report} = s.due job header := by
      simpa [Hand.held] using hput
    have hfull : s.printout.full job = true := ho.full_of_stopped (ho.hungUp hl) (deserted_eq_false hw rfl)
    refine ⟨past, printed, lost + {.ok report},
      h.carry rfl rfl rfl h.printout ?_ fun _ => .inr hfull⟩
    rw [← hdue]
    abel
  | @print report reports hp hr =>
    refine ⟨past, printed ++ [report], lost, h.carry rfl rfl rfl ?_ ?_ hlost⟩
    · rw [List.foldl_append, ← h.printout]
      rfl
    · simp only [due, untaken, unprinted, hr, ← Multiset.cons_coe, ← Multiset.coe_add,
        ← Multiset.singleton_add, Multiset.map_add, Multiset.map_singleton]
      abel
  | stop => exact ⟨past, printed, lost, h.carry_of_due_eq rfl rfl rfl rfl rfl hlost⟩
  | hangUp => exact ⟨past, printed, lost, h.carry_of_due_eq rfl rfl rfl rfl rfl hlost⟩

/-! ### Whole runs -/

/-- **At any time**, the network is in order and its records are accounted for. -/
theorem Steps.exists_ledger (h : Steps job header (start job table) s) :
    s.Orderly job ∧ ∃ past printed lost, Ledger job header table s past printed lost := by
  generalize hstart : start job table = first at h
  induction h with
  | refl =>
    subst hstart
    exact ⟨orderly_start job table, [], [], 0, ledger_start job header table⟩
  | tail _ hstep ih =>
    obtain ⟨ho, past, printed, lost, hl⟩ := ih
    exact ⟨ho.move hstep.move, hl.move ho hstep.move⟩

/-- At the end of a network that was not interrupted, nothing is due. -/
theorem Exhausted.due_eq_zero (h : s.Exhausted) (job : Job) (header : List String) :
    s.due job header = 0 := by
  have hhands : (s.workers.map Hand.held).sum = 0 := List.sum_eq_zero fun held hh => by
    obtain ⟨hand, hw, rfl⟩ := List.mem_map.1 hh
    rw [h.workers hand hw]
    rfl
  simp only [due, untaken, unprinted, h.feeder, h.queue, h.reports, hhands]
  rfl

end Network

namespace Network

variable {job : Job} {table : Table} {s : Network}

/-- The outcomes of all records are printed, in some order. -/
theorem Done.exists_reports (hlimit : job.program.limit = none)
    (hrun : Steps job header (start job table) s) (hdone : s.Done) (hcrash : ¬ s.Crashed) :
    ∃ reports printed : List Report,
      (Job.recordsOf table).map (job.report header) = reports.map .ok ∧
      printed.Perm reports ∧ s.printout = printed.foldl (Printout.add job) .empty ∧
      s.records = (Job.recordsOf table).length ∧ s.records + s.skipped = table.entries.length := by
  obtain ⟨ho, past, printed, lost, hl⟩ := hrun.exists_ledger
  have hi : ¬ s.Interrupted job := not_interrupted hcrash (by simp [Printout.full, hlimit])
  have hexhausted := ho.exhausted hdone hi
  have hdue := hexhausted.due_eq_zero job header
  have hlost : lost = 0 := by_contra fun hne => hi (hl.lost hne)
  have hpast : past = table.entries := by rw [hl.entries, hexhausted.entries, List.append_nil]
  have hperm : ((Job.recordsOf table).map (job.report header)).Perm (printed.map .ok) := by
    have houtcomes := hl.outcomes
    rw [hdue, hlost, zero_add, add_zero, Multiset.map_coe, Multiset.map_coe, Multiset.coe_eq_coe,
      hpast] at houtcomes
    exact houtcomes
  -- Each outcome is a report, because they are the printed ones in another order.
  refine ⟨_, printed, (map_ok_filterMap_toOption fun x hx => ?_).symm, ?_, hl.printout,
    by rw [hl.records, hpast]; rfl, by rw [hl.skipped, hpast]⟩
  · obtain ⟨report, -, rfl⟩ := List.mem_map.1 (hperm.subset hx)
    exact ⟨report, rfl⟩
  · have hreports := hperm.filterMap Except.toOption
    rw [List.filterMap_map] at hreports
    simpa [Function.comp_def, Except.toOption] using hreports.symm

/-- **No record is lost or processed twice.**  Whatever the order of the steps, a network without a
limit that comes to its end, with no worker broken down, has counted each entry of the table and
each record once; and it has printed the lines that the records give one after the other, in some
order. -/
theorem Done.conserves_records {input : List UInt8}
    (hread : Table.read job.delimiter input = .ok table) (hlimit : job.program.limit = none)
    (hrun : Steps job table.header (start job table) s) (hdone : s.Done) (hcrash : ¬ s.Crashed) :
    s.records + s.skipped = table.entries.length ∧
      s.printout.emitted + s.printout.filtered + s.printout.failed = s.records ∧
      ∃ lines, job.run input = (lines, .ok s.tally) ∧ s.printout.lines.toList.Perm lines := by
  obtain ⟨reports, printed, hreports, hperm, hprintout, hrecords, hskipped⟩ :=
    hdone.exists_reports hlimit hrun hcrash
  have hprocess := Job.process_eq hlimit hreports .empty
  have hstaffed := hrun.exists_ledger.1.staffed
  have hlines := hperm.filterMap (Report.line? job)
  have hfiltered := hperm.countP_eq Report.isFiltered
  have hfailed := hperm.countP_eq Report.isFailed
  refine ⟨hskipped, ?_, (reports.foldl (Printout.add job) .empty).lines.toList, ?_, ?_⟩
  · have hlength : reports.length = (Job.recordsOf table).length := by
      simpa using (congrArg List.length hreports).symm
    have htotal := Printout.total_foldl_add job printed .empty
    rw [← hprintout] at htotal
    rw [htotal, hrecords, ← hlength, hperm.length_eq]
    simp [Printout.empty]
  · have htally : s.tally =
        job.tally table (reports.foldl (Printout.add job) .empty) := by
      simp only [tally, Job.tally, hprintout, Printout.foldl_add, hstaffed, ← hrecords,
        hlines.length_eq, hfiltered, hfailed]
      simp only [Job.Tally.mk.injEq, and_true, true_and]
      omega
    simp only [Job.run, hread, hprocess, htally]
  · simpa [hprintout, Printout.foldl_add, Printout.empty] using hlines

/-- Whose turn it is. -/
inductive Turn where
  /-- The feeder's. -/
  | feeder
  /-- A worker's, which heeds the sign or takes a record. -/
  | worker (index : Nat) (heeds : Bool)
  /-- The printer's. -/
  | printer

/-- A step of whoever's turn it is. -/
def turn (job : Job) (header : List String) (s : Network) : Turn → Option Network
  | .feeder => s.feed
  | .worker index heeds => s.work job header index heeds
  | .printer => s.print job

/-- The network after some turns, where nobody has to wait. -/
def follow (job : Job) (header : List String) : List Turn → Network → Option Network
  | [], s => some s
  | whose :: turns, s => (s.turn job header whose).bind (follow job header turns)

theorem steps_of_follow {first t : Network} {turns : List Turn} (hs : Steps job header first s)
    (h : follow job header turns s = some t) : Steps job header first t := by
  induction turns generalizing s with
  | nil => cases h; exact hs
  | cons whose turns ih =>
    obtain ⟨s', hturn, h⟩ := Option.bind_eq_some_iff.1 h
    refine ih (hs.tail ?_) h
    cases whose with
    | feeder => exact .feed hturn
    | worker index heeds => exact .work index heeds hturn
    | printer => exact .print hturn

/-- Two workers share a table of two records and a line with a field too many. -/
theorem conserves_records_two_workers :
    ∃ (job : Job) (table : Table) (input : List UInt8) (s : Network),
      Table.read job.delimiter input = .ok table ∧ job.program.limit = none ∧
      Steps job table.header (start job table) s ∧ s.Done ∧ ¬ s.Crashed ∧
      s.records + s.skipped = table.entries.length ∧
      s.printout.emitted + s.printout.filtered + s.printout.failed = s.records ∧
      ∃ lines, job.run input = (lines, .ok s.tally) ∧ s.printout.lines.toList.Perm lines := by
  let job : Job := ⟨.empty, ⟨[.filter (.field "ok")], none⟩, .text, ',', 2⟩
  let table : Table :=
    ⟨["ok"], [.ok ⟨2, ["false"]⟩, .ok ⟨3, ["true"]⟩, .error (.fieldCount 4 1 2)]⟩
  let input : List UInt8 :=
    [111, 107, 10, 102, 97, 108, 115, 101, 10, 116, 114, 117, 101, 10, 49, 44, 50, 10]
  let turns : List Turn :=
    [.feeder, .feeder, .worker 0 false, .feeder, .feeder, .worker 1 false, .worker 1 false,
      .feeder, .printer, .feeder, .worker 1 true, .worker 0 false, .feeder, .worker 0 false,
      .worker 1 false, .printer, .printer, .printer]
  have hread : Table.read job.delimiter input = .ok table := by rfl
  have hfollow : ∃ s, follow job table.header turns (start job table) = some s ∧ s.Done ∧
      ¬ s.Crashed := by
    refine ⟨_, rfl, ⟨rfl, rfl, rfl, rfl⟩, ?_⟩
    change Hand.crashed ∉ [Hand.gone, Hand.gone]
    simp
  obtain ⟨s, hs, hdone, hcrash⟩ := hfollow
  have hrun : Steps job table.header (start job table) s := steps_of_follow (.refl _) hs
  exact ⟨job, table, input, s, hread, rfl, hrun, hdone, hcrash,
    hdone.conserves_records hread rfl hrun hcrash⟩

end Network

end RowSieve

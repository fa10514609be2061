import Mathlib.Data.List.Perm.Subperm
import RowSieve.Proofs.Batch.Order
import RowSieve.Proofs.Record.Numbering

/-!
# Limits

A program may ask for so many rows.  However the feeder, the workers and the printer take turns, a
network that comes to its end with no worker broken down has printed as many rows as asked for, or
all there are if these are fewer, and each comes from a record of its own.  One worker prints the
rows of the first records that pass (`Network.Done.prints_up_to_limit`).

What is printed is `Job.printoutOf` of some records: with many workers of any, by the ledger, and
with one worker of the first ones, which are in line.
-/

namespace RowSieve

namespace Job

variable {job : Job} {header : List String} {r : Record} {rs : List Record} {reports : List Report}

/-! ### What the program does with a record -/

/-- How the program ends on a record. -/
def outcome (job : Job) (header : List String) (r : Record) : Except Fall Outcome :=
  (RowSieve.run job.functions (Row.ofRecord header r.fields) job.program.instructions .empty).1

/-- The record passes. -/
def passes (job : Job) (header : List String) (r : Record) : Bool :=
  match job.outcome header r with
  | .ok .passed => true
  | _ => false

/-- The record is filtered out. -/
def filters (job : Job) (header : List String) (r : Record) : Bool :=
  match job.outcome header r with
  | .ok .filtered => true
  | _ => false

/-- The program fails on the record. -/
def fails (job : Job) (header : List String) (r : Record) : Bool :=
  match job.outcome header r with
  | .error (.error _) => true
  | _ => false

/-- The line that is printed for a record, if there is one. -/
def line? (job : Job) (header : List String) (r : Record) : Option String :=
  (job.report header r).toOption.bind (Report.line? job)

/-- What is printed for records, one after the other. -/
def printoutOf (job : Job) (header : List String) (rs : List Record) : Printout where
  lines := (rs.filterMap (job.line? header)).toArray
  emitted := rs.countP (job.passes header)
  filtered := rs.countP (job.filters header)
  failed := rs.countP (job.fails header)

/-- The report of a record is one for each way in which the program ends. -/
theorem kinds_report (job : Job) (header : List String) (r : Record) :
    (job.line? header r).isSome = job.passes header r ∧
      (job.report header r).toOption.any Report.isFiltered = job.filters header r ∧
      (job.report header r).toOption.any Report.isFailed = job.fails header r := by
  unfold line? report passes filters fails outcome
  dsimp only
  generalize RowSieve.run job.functions (Row.ofRecord header r.fields) job.program.instructions
    .empty = result
  obtain ⟨(e | c) | (_ | _), written⟩ := result <;> exact ⟨rfl, rfl, rfl⟩

/-- A record that passes is not filtered out, and the program does not fail on it. -/
theorem kinds_of_passes (h : job.passes header r = true) :
    job.filters header r = false ∧ job.fails header r = false := by
  unfold passes at h
  split at h
  next houtcome => simp [filters, fails, houtcome]
  next => cases h

/-- What is printed for the reports of records. -/
theorem foldl_add_of_reports (h : rs.map (job.report header) = reports.map .ok) :
    reports.foldl (Printout.add job) .empty = job.printoutOf header rs := by
  have hlines : rs.filterMap (job.line? header) = reports.filterMap (Report.line? job) := by
    have hlift := congrArg (List.filterMap fun x => x.toOption.bind (Report.line? job)) h
    rwa [List.filterMap_map, List.filterMap_map] at hlift
  have hcount : ∀ p : Report → Bool,
      rs.countP (fun r => (job.report header r).toOption.any p) = reports.countP p := by
    intro p
    have hlift := congrArg (List.countP fun x => x.toOption.any p) h
    rwa [List.countP_map, List.countP_map] at hlift
  rw [Printout.foldl_add, ← hlines, ← hcount, ← hcount, List.length_filterMap_eq_countP]
  simp [printoutOf, Printout.empty, kinds_report]

end Job

/-- The records that pass, in the order of the table. -/
def Job.passing (job : Job) (table : Table) : List Record :=
  (recordsOf table).filter (job.passes table.header)

/-- The records of a table come from different lines. -/
theorem pairwise_line_recordsOf {delimiter : Char} {input : List UInt8} {table : Table}
    (hread : Table.read delimiter input = .ok table) :
    (Job.recordsOf table).Pairwise fun a b => a.line < b.line := by
  refine List.pairwise_filterMap.2 ((List.pairwise_map.1 (Table.pairwise_entryLine hread)).imp ?_)
  intro x y hlt a ha b hb
  cases x with
  | error => cases ha
  | ok x =>
    cases y with
    | error => cases hb
    | ok y =>
      cases ha
      cases hb
      exact hlt

/-- Images are left out before or after they are taken. -/
theorem map_filter_isSome {α β : Type} {f : α → Option β} {p : α → Bool}
    (h : ∀ a, (f a).isSome = p a) (l : List α) :
    (l.filter p).map f = (l.filterMap f).map some := by
  induction l with
  | nil => rfl
  | cons a l ih =>
    have ha := h a
    cases hf : f a <;> simp_all

theorem Printout.full_eq {job : Job} {limit : Nat} (hlimit : job.program.limit = some limit)
    (p : Printout) : p.full job = decide (p.emitted = limit) := by
  simp [full, hlimit, eq_comm]

namespace Network

variable {job : Job} {header : List String} {table : Table} {s t : Network} {limit : Nat}
  {past : List (Except LineError Record)} {printed : List Report}
  {lost : Multiset (Except Crash Report)}

/-! ### Any number of workers -/

theorem emitted_add_le (job : Job) (p : Printout) (report : Report) :
    (p.add job report).emitted ≤ p.emitted + 1 := by
  cases report <;> simp [Printout.add]

/-- No move prints more rows than the program asks for. -/
theorem Move.emitted_le (hlimit : job.program.limit = some limit) (ho : s.Orderly job)
    (hm : Move job header s t) (h : s.printout.emitted ≤ limit) : t.printout.emitted ≤ limit := by
  cases hm with
  | @print report reports hp hr =>
    have hwanted : s.printout.emitted ≠ limit := by
      simpa [Printout.full_eq hlimit] using ho.printing hp
    have hadd := emitted_add_le job s.printout report
    dsimp only
    omega
  | _ => exact h

theorem Steps.emitted_le (hlimit : job.program.limit = some limit)
    (h : Steps job header (start job table) s) : s.printout.emitted ≤ limit := by
  generalize hstart : start job table = first at h
  induction h with
  | refl =>
    subst hstart
    exact Nat.zero_le _
  | tail hsteps hstep ih =>
    subst hstart
    exact hstep.move.emitted_le hlimit hsteps.exists_ledger.1 ih

/-- What is printed comes from records of the table, each of them taken once. -/
theorem Ledger.exists_records (h : Ledger job header table s past printed lost) :
    ∃ rs : List Record, rs.Subperm (Job.recordsOf table) ∧
      rs.map (job.report header) = printed.map .ok := by
  have hle : (printed.map Except.ok).Subperm
      ((past.filterMap Except.toOption).map (job.report header)) := by
    rw [← Multiset.coe_le, ← Multiset.map_coe, ← Multiset.map_coe, h.outcomes, add_assoc]
    exact (Multiset.le_add_right _ _).trans (Multiset.le_add_left _ _)
  obtain ⟨outcomes, hperm, hsublist⟩ := hle
  obtain ⟨ps, hps, rfl⟩ := List.sublist_map_iff.1 hsublist
  -- The records in the order in which their reports were printed.
  obtain ⟨rs, hrs, hrsps⟩ : Relation.Comp (· = List.map (job.report header) ·) List.Perm
      (printed.map Except.ok) ps := by
    rw [List.eq_map_comp_perm]
    exact hperm.symm
  have hpast : (past.filterMap Except.toOption).Sublist (Job.recordsOf table) := by
    rw [Job.recordsOf, h.entries, List.filterMap_append]
    exact List.sublist_append_left _ _
  exact ⟨rs, ⟨ps, hrsps.symm, hps.trans hpast⟩, hrs.symm⟩

/-- Printed are the rows of different records, and of all records unless enough rows are printed. -/
theorem Done.exists_records (hrun : Steps job header (start job table) s) (hdone : s.Done)
    (hcrash : ¬ s.Crashed) :
    ∃ rs : List Record, rs.Subperm (Job.recordsOf table) ∧
      s.printout = job.printoutOf header rs ∧
      (s.printout.full job = false → rs.Perm (Job.recordsOf table)) := by
  obtain ⟨ho, past, printed, lost, hl⟩ := hrun.exists_ledger
  obtain ⟨rs, hrs, hreports⟩ := hl.exists_records
  refine ⟨rs, hrs, hl.printout.trans (Job.foldl_add_of_reports hreports), fun hfull => ?_⟩
  have hi : ¬ s.Interrupted job := not_interrupted hcrash hfull
  have hexhausted := ho.exhausted hdone hi
  have hlost : lost = 0 := by_contra fun hne => hi (hl.lost hne)
  have hpast : past = table.entries := by rw [hl.entries, hexhausted.entries, List.append_nil]
  -- As many reports are printed as there are records.
  have hcard := congrArg Multiset.card hl.outcomes
  rw [hexhausted.due_eq_zero job header, hlost, hpast, zero_add, add_zero, Multiset.card_map,
    Multiset.card_map, Multiset.coe_card, Multiset.coe_card] at hcard
  have hlength : rs.length = printed.length := by simpa using congrArg List.length hreports
  exact hrs.perm_of_length_le (hlength ▸ hcard.le)

/-- As many rows are printed as the program asks for, or as there are. -/
theorem Done.emitted_eq (hlimit : job.program.limit = some limit)
    (hrun : Steps job table.header (start job table) s) (hdone : s.Done) (hcrash : ¬ s.Crashed) :
    s.printout.emitted = min limit (job.passing table).length := by
  obtain ⟨rs, hrs, hprintout, hall⟩ := hdone.exists_records hrun hcrash
  have hle := hrun.emitted_le hlimit
  have hcount : s.printout.emitted = rs.countP (job.passes table.header) := by rw [hprintout]; rfl
  have hsubperm := hrs.countP_le (job.passes table.header)
  rw [Job.passing, ← List.countP_eq_length_filter]
  by_cases hfull : s.printout.emitted = limit
  · omega
  · have hperm := hall (by simpa [Printout.full_eq hlimit] using hfull)
    have heq := hperm.countP_eq (job.passes table.header)
    omega

/-! ### One worker -/

/-- One worker prints the rows of the first records, and of all records unless enough rows are
printed. -/
theorem Done.exists_first_records (hone : job.workers ≤ 1)
    (hrun : Steps job header (start job table) s) (hdone : s.Done) (hcrash : ¬ s.Crashed) :
    ∃ rs rest, Job.recordsOf table = rs ++ rest ∧ s.printout = job.printoutOf header rs ∧
      (∀ before r, rs = before ++ [r] → (job.printoutOf header before).full job = false) ∧
      (s.printout.full job = false → rest = []) := by
  obtain ⟨printed, hprintout, hwanted, hprefix, hall⟩ := hdone.exists_prefix hone hrun hcrash
  obtain ⟨rs, ⟨rest, hrest⟩, hreports⟩ := List.prefix_map_iff.1 hprefix
  refine ⟨rs, rest, hrest.symm, hprintout.trans (Job.foldl_add_of_reports hreports.symm),
    fun before r hbefore => ?_, fun hfull => ?_⟩
  · subst hbefore
    rw [List.map_append, List.map_eq_append_iff] at hreports
    obtain ⟨front, last, hprinted, hfront, hlast⟩ := hreports
    obtain ⟨report, rfl, -⟩ := List.map_eq_singleton_iff.1 hlast
    rw [← Job.foldl_add_of_reports hfront.symm]
    exact hwanted front report hprinted
  · have hlength := congrArg List.length ((hreports.symm.trans (hall hfull)).trans
      (congrArg (List.map (job.report header)) hrest.symm))
    simpa using hlength

/-- One worker prints the rows of the first records that pass. -/
theorem Done.map_take_passing (hlimit : job.program.limit = some limit) (hone : job.workers ≤ 1)
    (hrun : Steps job table.header (start job table) s) (hdone : s.Done) (hcrash : ¬ s.Crashed) :
    ((job.passing table).take limit).map (job.line? table.header) =
      s.printout.lines.toList.map some := by
  obtain ⟨rs, rest, hrecords, hprintout, -, hrest⟩ := hdone.exists_first_records hone hrun hcrash
  have hpassing : job.passing table =
      rs.filter (job.passes table.header) ++ rest.filter (job.passes table.header) := by
    rw [Job.passing, hrecords, List.filter_append]
  have hemitted : (rs.filter (job.passes table.header)).length = s.printout.emitted := by
    rw [hprintout, ← List.countP_eq_length_filter]
    rfl
  have htake : (job.passing table).take limit = rs.filter (job.passes table.header) := by
    by_cases hfull : s.printout.emitted = limit
    · rw [hpassing, List.take_left' (hemitted.trans hfull)]
    · obtain rfl := hrest (by simpa [Printout.full_eq hlimit] using hfull)
      rw [hpassing, List.filter_nil, List.append_nil]
      exact List.take_of_length_le (hemitted ▸ hrun.emitted_le hlimit)
  rw [htake, hprintout]
  exact map_filter_isSome (fun r => (Job.kinds_report job table.header r).1) rs

/-- One worker goes through all records if these do not pass often enough. -/
theorem Done.printout_of_lt (hlimit : job.program.limit = some limit) (hone : job.workers ≤ 1)
    (hrun : Steps job table.header (start job table) s) (hdone : s.Done) (hcrash : ¬ s.Crashed)
    (hlt : (job.passing table).length < limit) :
    s.printout = job.printoutOf table.header (Job.recordsOf table) := by
  obtain ⟨rs, rest, hrecords, hprintout, -, hrest⟩ := hdone.exists_first_records hone hrun hcrash
  have hemitted := hdone.emitted_eq hlimit hrun hcrash
  obtain rfl := hrest (by simp only [Printout.full_eq hlimit, decide_eq_false_iff_not]; omega)
  rw [hprintout, hrecords, List.append_nil]

/-- One worker stops behind the record whose row is the last that is wanted. -/
theorem Done.printout_of_le (hlimit : job.program.limit = some limit) (hone : job.workers ≤ 1)
    (hrun : Steps job table.header (start job table) s) (hdone : s.Done) (hcrash : ¬ s.Crashed)
    (hpos : 1 ≤ limit) (hle : limit ≤ (job.passing table).length) :
    ∃ before r after, Job.recordsOf table = before ++ r :: after ∧
      job.passes table.header r = true ∧ before.countP (job.passes table.header) + 1 = limit ∧
      s.printout = job.printoutOf table.header (before ++ [r]) := by
  obtain ⟨rs, rest, hrecords, hprintout, hwanted, -⟩ :=
    hdone.exists_first_records hone hrun hcrash
  have hcount : rs.countP (job.passes table.header) = limit := by
    have hemitted := hdone.emitted_eq hlimit hrun hcrash
    rw [hprintout, Nat.min_eq_left hle] at hemitted
    exact hemitted
  have hne : rs ≠ [] := by
    rintro rfl
    rw [List.countP_nil] at hcount
    omega
  obtain ⟨before, r, rfl⟩ := List.eq_nil_or_concat' rs |>.resolve_left hne
  -- Before the last record one more row was wanted, so that record passes.
  have hbefore : before.countP (job.passes table.header) ≠ limit := by
    simpa [Printout.full_eq hlimit, Job.printoutOf] using hwanted before r rfl
  rw [List.countP_append, List.countP_singleton] at hcount
  have hpasses : job.passes table.header r = true := by
    by_contra hpasses
    simp [hpasses, hbefore] at hcount
  refine ⟨before, r, rest, ?_, hpasses, by simpa [hpasses] using hcount, hprintout⟩
  rw [hrecords, List.append_assoc, List.singleton_append]

/-- One worker prints nothing if no rows are wanted. -/
theorem Done.printout_of_zero (hlimit : job.program.limit = some 0) (hone : job.workers ≤ 1)
    (hrun : Steps job table.header (start job table) s) (hdone : s.Done) (hcrash : ¬ s.Crashed) :
    s.printout = .empty := by
  obtain ⟨rs, rest, hrecords, hprintout, hwanted, -⟩ :=
    hdone.exists_first_records hone hrun hcrash
  rcases List.eq_nil_or_concat' rs with rfl | ⟨before, r, rfl⟩
  · exact hprintout
  · have hbefore : before.countP (job.passes table.header) ≠ 0 := by
      simpa only [Printout.full_eq hlimit, decide_eq_false_iff_not, Job.printoutOf] using
        hwanted before r rfl
    have hemitted : (before ++ [r]).countP (job.passes table.header) = 0 := by
      have hemitted := hdone.emitted_eq hlimit hrun hcrash
      rwa [hprintout, Nat.zero_min] at hemitted
    rw [List.countP_append] at hemitted
    omega

/-- **The limit is exact, and one worker keeps the order.**  Whatever the order of the steps, a
network that comes to its end, with no worker broken down, has printed as many rows as the program
asks for, or as there are records that pass if these are fewer, each for another record.  One worker
prints the rows of the first records that pass, and counts the others up to the last one of these,
or all if not enough pass. -/
theorem Done.prints_up_to_limit {input : List UInt8}
    (hread : Table.read job.delimiter input = .ok table) (hlimit : job.program.limit = some limit)
    (hrun : Steps job table.header (start job table) s) (hdone : s.Done) (hcrash : ¬ s.Crashed) :
    s.printout.emitted = min limit (job.passing table).length ∧
      s.printout.lines.size = s.printout.emitted ∧
      (∃ rs : List Record, rs.Nodup ∧ (∀ r ∈ rs, r ∈ job.passing table) ∧
        rs.map (job.line? table.header) = s.printout.lines.toList.map some) ∧
      (job.workers ≤ 1 →
        ((job.passing table).take limit).map (job.line? table.header) =
          s.printout.lines.toList.map some ∧
        ((job.passing table).length < limit →
          s.printout.filtered = (Job.recordsOf table).countP (job.filters table.header) ∧
            s.printout.failed = (Job.recordsOf table).countP (job.fails table.header)) ∧
        (limit = 0 → s.printout.filtered = 0 ∧ s.printout.failed = 0) ∧
        (1 ≤ limit → limit ≤ (job.passing table).length →
          ∃ before r after, Job.recordsOf table = before ++ r :: after ∧
            job.passes table.header r = true ∧
            before.countP (job.passes table.header) + 1 = limit ∧
            s.printout.filtered = before.countP (job.filters table.header) ∧
            s.printout.failed = before.countP (job.fails table.header))) := by
  have hsome := fun r => (Job.kinds_report job table.header r).1
  refine ⟨hdone.emitted_eq hlimit hrun hcrash, ?_, ?_, fun hone =>
    ⟨hdone.map_take_passing hlimit hone hrun hcrash, fun hlt => ?_, ?_, fun hpos hle => ?_⟩⟩
  · obtain ⟨rs, -, hprintout, -⟩ := hdone.exists_records hrun hcrash
    simp [hprintout, Job.printoutOf, List.length_filterMap_eq_countP, hsome]
  · obtain ⟨rs, ⟨ps, hperm, hps⟩, hprintout, -⟩ := hdone.exists_records hrun hcrash
    have hnodup : (Job.recordsOf table).Nodup := (pairwise_line_recordsOf hread).imp <| by
      rintro a _ hlt rfl
      exact lt_irrefl _ hlt
    refine ⟨rs.filter (job.passes table.header), ?_, fun r hr => ?_, ?_⟩
    · exact (hperm.nodup_iff.1 (hnodup.sublist hps)).filter _
    · obtain ⟨hr, hpasses⟩ := List.mem_filter.1 hr
      exact List.mem_filter.2 ⟨hps.subset (hperm.symm.subset hr), hpasses⟩
    · rw [hprintout]
      exact map_filter_isSome hsome rs
  · rw [hdone.printout_of_lt hlimit hone hrun hcrash hlt]
    exact ⟨rfl, rfl⟩
  · rintro rfl
    rw [hdone.printout_of_zero hlimit hone hrun hcrash]
    exact ⟨rfl, rfl⟩
  · obtain ⟨before, r, after, hrecords, hpasses, hcount, hprintout⟩ :=
      hdone.printout_of_le hlimit hone hrun hcrash hpos hle
    obtain ⟨hfilters, hfails⟩ := Job.kinds_of_passes hpasses
    refine ⟨before, r, after, hrecords, hpasses, hcount, ?_, ?_⟩ <;> rw [hprintout] <;>
      simp [Job.printoutOf, hfilters, hfails]

/-- One worker goes on to the third record, whose row is no longer wanted. -/
theorem prints_up_to_limit_one_worker :
    ∃ (job : Job) (table : Table) (input : List UInt8) (s : Network),
      Table.read job.delimiter input = .ok table ∧ job.program.limit = some 1 ∧
      Steps job table.header (start job table) s ∧ s.Done ∧ ¬ s.Crashed ∧ job.workers ≤ 1 ∧
      (job.passing table).length = 2 ∧ s.printout.emitted = 1 ∧
      ∃ before r after, Job.recordsOf table = before ++ r :: after ∧
        job.passes table.header r = true ∧
        before.countP (job.passes table.header) + 1 = 1 ∧
        s.printout.filtered = before.countP (job.filters table.header) ∧
        s.printout.failed = before.countP (job.fails table.header) := by
  let job : Job := ⟨.empty, ⟨[.filter (.field "ok")], some 1⟩, .text, ',', 1⟩
  let table : Table :=
    ⟨["ok"], [.ok ⟨2, ["false"]⟩, .ok ⟨3, ["true"]⟩, .ok ⟨4, ["true"]⟩]⟩
  let input : List UInt8 :=
    [111, 107, 10, 102, 97, 108, 115, 101, 10, 116, 114, 117, 101, 10, 116, 114, 117, 101, 10]
  let turns : List Turn :=
    [.feeder, .feeder, .worker 0 false, .feeder, .feeder, .worker 0 false, .worker 0 false,
      .printer, .worker 0 false, .printer, .feeder, .feeder, .worker 0 false, .worker 0 false,
      .printer, .feeder, .feeder, .worker 0 false]
  have hread : Table.read job.delimiter input = .ok table := by rfl
  have hpassing : (job.passing table).length = 2 := by rfl
  have hfollow : ∃ s, follow job table.header turns (start job table) = some s ∧ s.Done ∧
      ¬ s.Crashed := by
    refine ⟨_, rfl, ⟨rfl, rfl, rfl, rfl⟩, ?_⟩
    change Hand.crashed ∉ [Hand.gone]
    simp
  obtain ⟨s, hs, hdone, hcrash⟩ := hfollow
  have hrun : Steps job table.header (start job table) s := steps_of_follow (.refl _) hs
  obtain ⟨hemitted, -, -, hone⟩ := hdone.prints_up_to_limit hread rfl hrun hcrash
  obtain ⟨-, -, -, hlast⟩ := hone le_rfl
  exact ⟨job, table, input, s, hread, rfl, hrun, hdone, hcrash, le_rfl, hpassing,
    by rw [hemitted, hpassing]; rfl, hlast le_rfl (by omega)⟩

end Network

end RowSieve

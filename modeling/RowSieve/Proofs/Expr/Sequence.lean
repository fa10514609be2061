import RowSieve.Proofs.Expr.Running

/-!
# Where runs end and what they leave

A run carries out instructions up to its end or up to the first one that does not let it go on: a
filter that does not hold, or an expression that has no value.  `CarriesOut` describes the
instructions in front of it and what they write, `Instruction.Ends` the one at which it ends, and
there is no other way (`exists_carriesOut_or_ends`).  The row that is left is the row that was given
with these writes and nothing else, whatever the end (`run_sequence`).
-/

namespace RowSieve

/-- The dictionary with more entries, of which the last one of a name wins. -/
def Dictionary.insertAll {α : Type} (d : Dictionary α) (pairs : List (String × α)) :
    Dictionary α :=
  pairs.foldl (fun d p => d.insert p.1 p.2) d

/-- A name has the value that is inserted last, or else the one it had. -/
theorem Dictionary.get?_insertAll {α : Type} (d : Dictionary α) (pairs : List (String × α))
    (name : String) :
    (d.insertAll pairs).get? name = (pairs.reverse.lookup name).or (d.get? name) := by
  induction pairs generalizing d with
  | nil => rfl
  | cons p pairs ih =>
    obtain ⟨key, value⟩ := p
    have hstep : d.insertAll ((key, value) :: pairs) = (d.insert key value).insertAll pairs := rfl
    rw [hstep, ih, List.reverse_cons, List.lookup_append, Dictionary.get?_insert, Option.or_assoc]
    by_cases hname : name = key
    · simp [hname]
    · simp [hname, List.lookup_cons, beq_eq_false_iff_ne.2 hname]

/-- All instructions are carried out: every filter holds, and these values are written, each under
the name of its assignment. -/
inductive CarriesOut (fs : Functions) (read : Row) :
    List Instruction → (written : Row) → List (String × Value) → Prop where
  /-- There is nothing to be done. -/
  | nil {written} : CarriesOut fs read [] written []
  /-- A filter holds on what has been written before it. -/
  | filter {condition is written v ws} : eval fs written read condition = .ok v → v.holds = true →
    CarriesOut fs read is written ws → CarriesOut fs read (.filter condition :: is) written ws
  /-- A value is written, and seen by what comes behind it. -/
  | assign {target value is written v ws} : eval fs written read value = .ok v →
    CarriesOut fs read is (written.insert target v) ws →
    CarriesOut fs read (.assign target value :: is) written ((target, v) :: ws)

/-- The instruction does not let a run go on, which ends so. -/
inductive Instruction.Ends (fs : Functions) (written read : Row) :
    Instruction → Except Fall Outcome → Prop where
  /-- A filter does not hold. -/
  | filtered {condition v} : eval fs written read condition = .ok v → v.holds = false →
    Ends fs written read (.filter condition) (.ok .filtered)
  /-- A filter has no value. -/
  | condition {condition e} : eval fs written read condition = .error e →
    Ends fs written read (.filter condition) (.error e)
  /-- There is no value to be written. -/
  | value {target value e} : eval fs written read value = .error e →
    Ends fs written read (.assign target value) (.error e)

variable {fs : Functions} {read written out : Row} {is : List Instruction}
  {ws : List (String × Value)} {outcome : Except Fall Outcome}

/-- What is carried out passes and has written what it writes. -/
theorem CarriesOut.run_eq (h : CarriesOut fs read is written ws) :
    run fs read is written = (.ok .passed, written.insertAll ws) := by
  induction h with
  | nil => rfl
  | filter hv hholds _ ih => rw [run_filter_eq_passed.2 ⟨_, hv, hholds, ih⟩]
  | assign hv _ ih => rw [run_assign_eq_passed.2 ⟨_, hv, ih⟩]; rfl

/-- It writes a value for each assignment, in order. -/
theorem CarriesOut.map_fst (h : CarriesOut fs read is written ws) :
    ws.map (·.1) = is.filterMap Instruction.target? := by
  induction h with
  | nil => rfl
  | filter _ _ _ ih => rw [ih, List.filterMap_cons_none (target?_filter _)]
  | assign _ _ ih => rw [List.map_cons, ih, List.filterMap_cons_some (target?_assign _ _)]

/-- What comes behind it goes on from there. -/
theorem CarriesOut.run_append (h : CarriesOut fs read is written ws) (after : List Instruction) :
    run fs read (is ++ after) written = run fs read after (written.insertAll ws) := by
  rw [RowSieve.run_append, h.run_eq]

/-- A run that comes to such an instruction ends there and leaves the row as it is. -/
theorem Instruction.Ends.run_eq {i : Instruction} (h : i.Ends fs written read outcome) :
    run fs read (i :: is) written = (outcome, written) := by
  cases h with
  | filtered hv hholds => simp [run, hv, hholds]
  | condition he => simp [run, he]
  | value he => simp [run, he]

/-- No run passes an instruction that does not let it go on. -/
theorem Instruction.Ends.ne_passed {i : Instruction} (h : i.Ends fs written read outcome) :
    outcome ≠ .ok .passed := by
  cases h <;> simp

/-- Either all instructions are carried out, or those in front of one that does not let a run go
on. -/
theorem exists_carriesOut_or_ends (fs : Functions) (read : Row) (is : List Instruction)
    (written : Row) :
    (∃ ws, CarriesOut fs read is written ws) ∨
      ∃ before i after ws outcome, is = before ++ i :: after ∧
        CarriesOut fs read before written ws ∧ i.Ends fs (written.insertAll ws) read outcome := by
  induction is generalizing written with
  | nil => exact .inl ⟨[], .nil⟩
  | cons i is ih =>
    cases i with
    | filter condition =>
      cases hv : eval fs written read condition with
      | error e => exact .inr ⟨[], _, is, [], _, rfl, .nil, .condition hv⟩
      | ok v =>
        cases hholds : v.holds with
        | false => exact .inr ⟨[], _, is, [], _, rfl, .nil, .filtered hv hholds⟩
        | true =>
          rcases ih written with ⟨ws, hws⟩ | ⟨before, i, after, ws, outcome, rfl, hws, hi⟩
          · exact .inl ⟨ws, .filter hv hholds hws⟩
          · exact .inr ⟨_ :: before, i, after, ws, outcome, rfl, .filter hv hholds hws, hi⟩
    | assign target value =>
      cases hv : eval fs written read value with
      | error e => exact .inr ⟨[], _, is, [], _, rfl, .nil, .value hv⟩
      | ok v =>
        rcases ih (written.insert target v) with
          ⟨ws, hws⟩ | ⟨before, i, after, ws, outcome, rfl, hws, hi⟩
        · exact .inl ⟨_, .assign hv hws⟩
        · exact .inr ⟨_ :: before, i, after, _, outcome, rfl, .assign hv hws, hi⟩

/-- A run ends in one of two ways, and the row that it leaves is known. -/
theorem run_eq_iff :
    run fs read is written = (outcome, out) ↔
      (outcome = .ok .passed ∧
        ∃ ws, CarriesOut fs read is written ws ∧ out = written.insertAll ws) ∨
      ∃ before i after ws, is = before ++ i :: after ∧ CarriesOut fs read before written ws ∧
        out = written.insertAll ws ∧ i.Ends fs out read outcome := by
  constructor
  · intro h
    rcases exists_carriesOut_or_ends fs read is written with
      ⟨ws, hws⟩ | ⟨before, i, after, ws, outcome', rfl, hws, hi⟩
    · rw [hws.run_eq] at h
      cases h
      exact .inl ⟨rfl, ws, hws, rfl⟩
    · rw [hws.run_append, hi.run_eq] at h
      cases h
      exact .inr ⟨before, i, after, ws, rfl, hws, rfl, hi⟩
  · rintro (⟨rfl, ws, hws, rfl⟩ | ⟨before, i, after, ws, rfl, hws, rfl, hi⟩)
    · exact hws.run_eq
    · rw [hws.run_append, hi.run_eq]

/-- A run that passes has carried everything out. -/
theorem exists_carriesOut_of_run (h : run fs read is written = (.ok .passed, out)) :
    ∃ ws, CarriesOut fs read is written ws ∧ out = written.insertAll ws := by
  rcases run_eq_iff.1 h with ⟨-, hws⟩ | ⟨before, i, after, ws, -, -, -, hi⟩
  · exact hws
  · exact absurd rfl hi.ne_passed

theorem mem_outputs_iff {p : Program} {name : String} :
    name ∈ p.outputs ↔ ∃ i ∈ p.instructions, i.target? = some name := List.mem_filterMap

/-- **One program after the other.**  The second one goes on from the row that the first one leaves
if that passes; else the run is that of the first one.  Whatever its end, a run leaves what it was
given with the writes of the instructions that it has carried out: of all of them if it passes, and
of those in front of the one at which it ends if it does not.  So it changes no name but those that
the program writes, and a run that passes has written them all. -/
theorem run_sequence (fs : Functions) (p q : Program) (read written : Row) :
    (run fs read (p.instructions ++ q.instructions) written =
      match run fs read p.instructions written with
      | (.ok .passed, out) => run fs read q.instructions out
      | result => result) ∧
    ∀ outcome out, run fs read p.instructions written = (outcome, out) →
      (outcome = .ok .passed →
        (∃ ws, CarriesOut fs read p.instructions written ws ∧ out = written.insertAll ws) ∧
        ∀ name ∈ p.outputs, name ∈ out.names) ∧
      (outcome ≠ .ok .passed → ∃ before i after ws, p.instructions = before ++ i :: after ∧
        CarriesOut fs read before written ws ∧ out = written.insertAll ws ∧
        i.Ends fs out read outcome) ∧
      ∀ name, name ∉ p.outputs → out.get? name = written.get? name := by
  refine ⟨run_append p.instructions q.instructions written, fun outcome out h => ⟨?_, ?_, ?_⟩⟩
  · rintro rfl
    exact ⟨exists_carriesOut_of_run h,
      fun name hname => (mem_names_run h).2 (.inr (mem_outputs_iff.1 hname))⟩
  · intro hne
    exact (run_eq_iff.1 h).resolve_left fun hpassed => hne hpassed.1
  · intro name hname
    have hkept : (run fs read p.instructions written).2.get? name = written.get? name :=
      get?_run (fun i hi htarget => hname (mem_outputs_iff.2 ⟨i, hi, htarget⟩)) written
    rwa [h] at hkept

/-- A division by zero between two assignments: the first one has been carried out, the second one
and the other program have not. -/
theorem run_sequence_fall :
    let p : Program := ⟨[.assign "a" (.integer 1),
      .assign "b" (.binary .divide (.field "a") (.integer 0)), .assign "d" .null], none⟩
    let q : Program := ⟨[.assign "e" .null], none⟩
    let written : Row := .ofList [("a", .integer 5), ("d", .integer 7), ("e", .integer 9)]
    let out : Row := .ofList [("a", .integer 1), ("d", .integer 7), ("e", .integer 9)]
    run .empty .empty (p.instructions ++ q.instructions) written =
        (.error (.error .divisionByZero), out) ∧
      (∃ before i after ws, p.instructions = before ++ i :: after ∧
        CarriesOut .empty .empty before written ws ∧ out = written.insertAll ws ∧
        i.Ends .empty out .empty (.error (.error .divisionByZero))) ∧
      out.get? "e" = written.get? "e" := by
  intro p q written out
  have hrun : run .empty .empty p.instructions written =
      (.error (.error .divisionByZero), out) := rfl
  obtain ⟨happend, hall⟩ := run_sequence .empty p q .empty written
  obtain ⟨-, hends, hkept⟩ := hall _ _ hrun
  rw [hrun] at happend
  exact ⟨happend, hends (by simp), hkept "e" (by decide)⟩

end RowSieve

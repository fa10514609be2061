import RowSieve.Proofs.Expr.Calls
import RowSieve.Proofs.Expr.Running

/-!
# What a program reads

An expression finds a name in the row that is read only if no one has written it.  So instructions
demand a name (`Instruction.Demands`) if one of them mentions it and none before that assigns it,
and of these names only those matter that the written row does not hold from the start.

Two rows that cannot be told apart by the demanded names (`Instruction.Alike`) stay so from one
instruction to the next, whatever is written on the way, and a run ends on both in the same way and
leaves the same row (`run_reads_demanded`): the other fields of a record have no influence on what
becomes of it.
-/

namespace RowSieve

namespace Instruction

/-- An instruction mentions the name, and none before it assigns it. -/
inductive Demands (name : String) : List Instruction → Prop where
  /-- The first one mentions it. -/
  | first {i is} : name ∈ i.expr.fields → Demands name (i :: is)
  /-- One of the others demands it, and the first one does not assign it. -/
  | later {i is} : i.target? ≠ some name → Demands name is → Demands name (i :: is)

variable {fs : Functions} {read read' written : Row} {i : Instruction} {is : List Instruction}

theorem demands_iff {name : String} :
    Demands name is ↔ ∃ before i after, is = before ++ i :: after ∧ name ∈ i.expr.fields ∧
      ∀ j ∈ before, j.target? ≠ some name := by
  constructor
  · intro h
    induction h with
    | @first i is hname => exact ⟨[], i, is, rfl, hname, by simp⟩
    | @later i is htarget _ ih =>
      obtain ⟨before, j, after, rfl, hname, hbefore⟩ := ih
      exact ⟨i :: before, j, after, rfl, hname, List.forall_mem_cons.2 ⟨htarget, hbefore⟩⟩
  · rintro ⟨before, i, after, rfl, hname, hbefore⟩
    induction before with
    | nil => exact .first hname
    | cons j before ih =>
      obtain ⟨htarget, hbefore⟩ := List.forall_mem_cons.1 hbefore
      exact .later htarget (ih hbefore)

/-- Behind what has been written, the two rows show the same under every demanded name. -/
def Alike (written read read' : Row) (is : List Instruction) : Prop :=
  ∀ name, Demands name is → seen written read name = seen written read' name

/-- Names that have been written are the same behind any two rows. -/
theorem alike_of_unwritten (h : ∀ name, Demands name is → written.get? name = none →
    (read.get? name).getD .null = (read'.get? name).getD .null) : Alike written read read' is := by
  intro name hname
  cases hwritten : written.get? name with
  | none => simpa only [seen, hwritten, Option.none_or] using h name hname hwritten
  | some v => simp only [seen, hwritten, Option.some_or]

namespace Alike

/-- The first instruction works out the same. -/
theorem eval_eq (h : Alike written read read' (i :: is)) :
    eval fs written read i.expr = eval fs written read' i.expr :=
  eval_congr fun name hname => h name (.first hname)

/-- The rows stay alike behind a filter, which writes nothing. -/
theorem filter {condition : Expr} (h : Alike written read read' (.filter condition :: is)) :
    Alike written read read' is :=
  fun name hname => h name (.later (by simp) hname)

/-- The rows stay alike behind an assignment: its target is the same from now on, and every other
name is as it was. -/
theorem assign {target : String} {value : Expr}
    (h : Alike written read read' (.assign target value :: is)) (v : Value) :
    Alike (written.insert target v) read read' is := by
  intro name hname
  rw [seen_insert, seen_insert]
  split
  next => rfl
  next hne => exact h name (.later (fun heq => hne (Option.some.inj heq).symm) hname)

/-- A run cannot tell the rows apart. -/
theorem run_eq (h : Alike written read read' is) :
    run fs read is written = run fs read' is written := by
  -- What has been written is the same in both runs up to any point.
  induction is generalizing written with
  | nil => rfl
  | cons i is ih =>
    have heval : eval fs written read i.expr = eval fs written read' i.expr := h.eval_eq
    cases i with
    | filter condition =>
      have hcondition : eval fs written read condition = eval fs written read' condition := heval
      simp only [run, hcondition, ih h.filter]
    | assign target value =>
      have hvalue : eval fs written read value = eval fs written read' value := heval
      simp only [run, hvalue]
      cases eval fs written read' value with
      | error e => rfl
      | ok v => exact ih (h.assign v)

end Alike

end Instruction

/-- **A program reads only what it mentions.**  On two rows that have the same under every name that
an instruction mentions, no instruction before it assigns and the written row does not hold, a run
ends in the same way, with the same error if it is one, and leaves the same row.  A name without a
value is as good as a name that is not there. -/
theorem run_reads_demanded {fs : Functions} {p : Program} {read read' written : Row}
    (h : ∀ before i after name, p.instructions = before ++ i :: after → name ∈ i.expr.fields →
      (∀ j ∈ before, j.target? ≠ some name) → written.get? name = none →
      (read.get? name).getD .null = (read'.get? name).getD .null) :
    run fs read p.instructions written = run fs read' p.instructions written := by
  have halike : Instruction.Alike written read read' p.instructions := by
    refine Instruction.alike_of_unwritten fun name hname hwritten => ?_
    obtain ⟨before, i, after, hsplit, hmem, hbefore⟩ := Instruction.demands_iff.1 hname
    exact h before i after name hsplit hmem hbefore hwritten
  exact halike.run_eq

/-- Of `b := a + 1; ?(b > c); a := b` behind a written `c` only `a` matters: `b` is assigned before
it is mentioned, and what the second record has under `b` and `c` is not seen. -/
theorem run_reads_demanded_shadowed :
    let p : Program := ⟨[.assign "b" (.binary .add (.field "a") (.integer 1)),
      .filter (.binary .greaterThan (.field "b") (.field "c")), .assign "a" (.field "b")], none⟩
    let written : Row := .ofList [("c", .integer 0)]
    run .empty (.ofList [("a", .integer 1)]) p.instructions written =
        (.ok .passed, .ofList [("a", .integer 2), ("b", .integer 2), ("c", .integer 0)]) ∧
      run .empty (.ofList [("a", .integer 1), ("b", .integer 7), ("c", .integer 9)]) p.instructions
        written = (.ok .passed, .ofList [("a", .integer 2), ("b", .integer 2), ("c", .integer 0)]) ∧
      run .empty (.ofList [("a", .integer (-5))]) p.instructions written =
        (.ok .filtered, .ofList [("b", .integer (-4)), ("c", .integer 0)]) := by
  intro p written
  have honly : ∀ name, Instruction.Demands name p.instructions → written.get? name = none →
      name = "a" := by
    intro name hname hwritten
    rcases hname with hname | ⟨htarget, hname | ⟨-, hname | ⟨-, hname⟩⟩⟩
    · simpa [Instruction.expr, Expr.fields] using hname
    · have hname : name = "b" ∨ name = "c" := by
        simpa [Instruction.expr, Expr.fields] using hname
      rcases hname with rfl | rfl
      · exact absurd rfl htarget
      · cases hwritten
    · have hname : name = "b" := by simpa [Instruction.expr, Expr.fields] using hname
      exact absurd (congrArg some hname.symm) htarget
    · cases hname
  have hrun : run .empty (.ofList [("a", .integer 1)]) p.instructions written =
      (.ok .passed, .ofList [("a", .integer 2), ("b", .integer 2), ("c", .integer 0)]) := rfl
  refine ⟨hrun, ?_, rfl⟩
  rw [← hrun]
  refine run_reads_demanded fun before i after name hsplit hmem hbefore hwritten => ?_
  rw [honly name (Instruction.demands_iff.2 ⟨before, i, after, hsplit, hmem, hbefore⟩) hwritten]
  rfl

end RowSieve

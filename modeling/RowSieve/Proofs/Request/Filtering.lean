import RowSieve.Proofs.Expr.Lowering
import RowSieve.Proofs.Text.ByteOrder

/-!
# Requests filter before they write

The program of a request begins with a filter for each predicate.  `Request.test` is what a
predicate says of a row that is read: the value of the field, compared with the value of the operand.
As nothing has been written when the filters are worked out, no filter sees anything but that row,
and the first predicate that does not hold ends the run with nothing written.
-/

namespace RowSieve

variable {fs : Functions} {r : Request} {read written : Row}

/-! ### Predicates -/

/-- What the predicate on a field with this operand says of a row: the comparison that was recorded,
between the value of the field and the value that the operand spells. -/
def Request.test (r : Request) (read : Row) (field operand : String) : Except Fall Value :=
  applyOperator (r.operator field) ((read.get? field).getD .null) (Value.ofField operand)

/-- All comparisons that were recorded are comparisons. -/
def Request.Compares (r : Request) : Prop :=
  ∀ field operator, r.operators.get? field = some operator → operator.isComparison

theorem Request.Compares.isComparison_operator (h : r.Compares) (field : String) :
    (r.operator field).isComparison := by
  rw [Request.operator]
  cases hfield : r.operators.get? field with
  | none => rfl
  | some operator => exact h field operator hfield

/-- A comparison looks at both sides. -/
theorem eval_comparison {operator : Operator} {left right : Expr} {a b : Value}
    (h : operator.isComparison) (hleft : eval fs written read left = .ok a)
    (hright : eval fs written read right = .ok b) :
    eval fs written read (.binary operator left right) = applyOperator operator a b := by
  have hand : operator ≠ .and := fun heq => by simp [heq, Operator.isComparison] at h
  have hor : operator ≠ .or := fun heq => by simp [heq, Operator.isComparison] at h
  simp [eval, hleft, hright, hand, hor]

/-- A predicate that has a value is true or false. -/
theorem Request.Compares.exists_boolean (h : r.Compares) {field operand : String} {v : Value}
    (hv : r.test read field operand = .ok v) : ∃ b, v = .boolean b :=
  exists_boolean_of_isComparison (h.isComparison_operator field) hv

/-! ### Filters -/

/-- With nothing written, the condition of a filter is the predicate. -/
theorem Request.Compares.eval_condition (h : r.Compares) (field operand : String) :
    eval fs .empty read (.binary (r.operator field) (.field field) (Value.ofField operand).toExpr) =
      r.test read field operand :=
  eval_comparison (h.isComparison_operator field) (eval_field field) (eval_toExpr _)

/-- Filters whose predicates hold are passed. -/
theorem Request.Compares.run_filters_of_true (h : r.Compares) {l : List (String × String)}
    (hl : ∀ q ∈ l, r.test read q.1 q.2 = .ok (.boolean true)) (is : List Instruction) :
    run fs read (l.map (fun q => r.filter q.1 q.2) ++ is) .empty = run fs read is .empty := by
  -- A filter writes nothing, so that the next one is met with the empty row again.
  induction l with
  | nil => rfl
  | cons q l ih =>
    obtain ⟨hq, hl⟩ := List.forall_mem_cons.1 hl
    simp [Request.filter, run, h.eval_condition, hq, Value.holds, ← ih hl]

/-- A filter whose predicate does not hold ends the run. -/
theorem Request.Compares.run_filter_of_ne (h : r.Compares) {field operand : String}
    (hne : r.test read field operand ≠ .ok (.boolean true)) (is : List Instruction) :
    run fs read (r.filter field operand :: is) .empty =
      ((r.test read field operand).map fun _ => .filtered, .empty) := by
  rw [Request.filter, run, h.eval_condition]
  cases htest : r.test read field operand with
  | error e => rfl
  | ok v =>
    obtain ⟨b, rfl⟩ := h.exists_boolean htest
    cases b with
    | false => rfl
    | true => exact absurd htest hne

/-! ### Assignments -/

/-- Assignments do not filter. -/
theorem run_assigns_ne_filtered {cs : List Column} {is : List Instruction}
    (h : List.Forall₂ (Column.Assigns fs) cs is) (written : Row) :
    (run fs read is written).1 ≠ .ok .filtered := by
  induction h generalizing written with
  | nil => simp [run]
  | cons hassigns _ ih =>
    obtain ⟨e, -, rfl⟩ := hassigns
    rw [run]
    split
    · simp
    · exact ih _

/-- **A request filters exactly on its predicates, before anything is written.**  The predicates are
worked out in the order of the bytes of their fields.  Each is true, false or falls; the first that
is not true ends the run, and the row put out is empty.  If all are true, then no row is filtered,
and one that passes has a value under the name of each column, and under no other name. -/
theorem ofRequest_filters_first {fs : Functions} {r : Request} {p : Program} (hr : r.Compares)
    (hp : Program.ofRequest fs r = .ok p) (read : Row) :
    r.predicates.entries.Pairwise (fun a b => utf8 a.1 < utf8 b.1) ∧
    (∀ field operand, (field, operand) ∈ r.predicates.entries ↔
      r.predicates.get? field = some operand) ∧
    (∀ field operand v, r.test read field operand = .ok v → ∃ b, v = .boolean b) ∧
    (∀ before field operand after, r.predicates.entries = before ++ (field, operand) :: after →
      (∀ q ∈ before, r.test read q.1 q.2 = .ok (.boolean true)) →
      r.test read field operand ≠ .ok (.boolean true) →
      run fs read p.instructions .empty =
        ((r.test read field operand).map fun _ => .filtered, .empty)) ∧
    ((∀ q ∈ r.predicates.entries, r.test read q.1 q.2 = .ok (.boolean true)) →
      (run fs read p.instructions .empty).1 ≠ .ok .filtered ∧
      ∀ out, run fs read p.instructions .empty = (.ok .passed, out) →
        ∀ name, name ∈ out.names ↔ ∃ c ∈ r.columns, c.name = name) := by
  obtain ⟨is, his, rfl⟩ := Program.ofRequest_eq_ok_iff.1 hp
  refine ⟨r.predicates.sorted.imp utf8_lt_utf8, fun _ _ => Dictionary.get?_eq_some_iff_mem.symm,
    fun _ _ _ => hr.exists_boolean, fun before field operand after hsplit hbefore hne => ?_,
    fun hall => ?_⟩
  · dsimp only [Request.filters]
    rw [hsplit, List.map_append, List.append_assoc, hr.run_filters_of_true hbefore, List.map_cons,
      List.cons_append, hr.run_filter_of_ne hne]
  · dsimp only [Request.filters]
    rw [hr.run_filters_of_true hall]
    refine ⟨run_assigns_ne_filtered his _, fun out hout name => ?_⟩
    rw [mem_names_run hout, Column.exists_target_iff his, List.mem_map]
    exact or_iff_right (by simp [Dictionary.names, Dictionary.empty])

/-- Where the age is a text, `age > 6` falls.  Whether the town is Rome is not asked any more, and
nothing is written. -/
theorem ofRequest_filters_first_fall :
    ∃ p, Program.ofRequest .empty ⟨.select, [.ofField "town"], none,
        .ofList [("age", "6"), ("town", "Rome")],
        .ofList [("age", .greaterThan), ("town", .notEqual)], none, []⟩ = .ok p ∧
      run .empty (Dictionary.ofList [("age", .text "old"), ("town", .text "Rome")]) p.instructions
        .empty = (.error (.error (.cannotCompare .greaterThan "string" "integer")), .empty) := by
  generalize hr : (⟨.select, [.ofField "town"], none, .ofList [("age", "6"), ("town", "Rome")],
    .ofList [("age", .greaterThan), ("town", .notEqual)], none, []⟩ : Request) = r
  have hcompares : r.Compares := by
    intro field operator h
    rw [← hr] at h
    have hmem := Dictionary.get?_eq_some_iff_mem.1 h
    change _ ∈ [("age", Operator.greaterThan), ("town", Operator.notEqual)] at hmem
    simp only [List.mem_cons, List.not_mem_nil, or_false, Prod.mk.injEq] at hmem
    rcases hmem with ⟨-, rfl⟩ | ⟨-, rfl⟩ <;> rfl
  have htest : r.test (.ofList [("age", .text "old"), ("town", .text "Rome")]) "age" "6" =
      .error (.error (.cannotCompare .greaterThan "string" "integer")) := by
    rw [← hr]
    rfl
  obtain ⟨p, hp⟩ : ∃ p, Program.ofRequest .empty r = .ok p := by
    rw [← hr]
    exact ⟨_, rfl⟩
  have hentries : r.predicates.entries = [] ++ ("age", "6") :: [("town", "Rome")] := by
    rw [← hr]
    rfl
  obtain ⟨-, -, -, hfirst, -⟩ := ofRequest_filters_first hcompares hp
    (.ofList [("age", .text "old"), ("town", .text "Rome")])
  refine ⟨p, hp, ?_⟩
  rw [hfirst [] "age" "6" _ hentries (by simp) (by simp [htest]), htest]
  rfl

end RowSieve

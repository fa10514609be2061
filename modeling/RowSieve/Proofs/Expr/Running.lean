import RowSieve.Expr.Evaluation
import RowSieve.Proofs.Expr.Falls

/-!
# Runs of programs

What an expression sees of the two rows are the values of its fields, so that rows on which these
are equal cannot be told apart (`eval_congr`).  A run goes through its instructions one after the
other (`run_append`), keeps what it does not write (`get?_run`), and has written every name that it
could write once it has passed (`mem_names_run`).
-/

namespace RowSieve

variable {fs : Functions} {read read' written written' : Row}

/-! ### What expressions see -/

/-- The value under a name: what has been written, or else what was read. -/
def seen (written read : Row) (name : String) : Value :=
  ((written.get? name).or (read.get? name)).getD .null

@[simp] theorem eval_field (name : String) :
    eval fs written read (.field name) = .ok (seen written read name) := rfl

@[simp] theorem seen_empty (name : String) :
    seen .empty read name = (read.get? name).getD .null := rfl

theorem seen_insert (name key : String) (v : Value) :
    seen (written.insert name v) read key = if key = name then v else seen written read key := by
  rw [seen, Dictionary.get?_insert]
  split <;> rfl

mutual

/-- The fields that an expression names. -/
def Expr.fields : Expr → List String
  | .float _ | .integer _ | .text _ | .boolean _ | .null => []
  | .field name => [name]
  | .binary _ left right => left.fields ++ right.fields
  | .not operand => operand.fields
  | .call _ arguments => Expr.fieldsAll arguments

/-- The fields that expressions name. -/
def Expr.fieldsAll : List Expr → List String
  | [] => []
  | e :: es => e.fields ++ Expr.fieldsAll es

end

mutual

/-- Of the rows only the values of the fields matter. -/
theorem eval_congr : ∀ {e : Expr},
    (∀ name ∈ e.fields, seen written read name = seen written' read' name) →
    eval fs written read e = eval fs written' read' e
  | .float _, _ | .integer _, _ | .text _, _ | .boolean _, _ | .null, _ => rfl
  | .field name, h => congrArg Except.ok (h name (.head _))
  | .not operand, h => by
    simp only [eval, eval_congr (e := operand) h]
  | .binary operator left right, h => by
    obtain ⟨hleft, hright⟩ := List.forall_mem_append.1 h
    simp only [eval, eval_congr hleft, eval_congr hright]
  | .call name arguments, h => by
    have harguments : evalAll fs written read arguments = evalAll fs written' read' arguments :=
      evalAll_congr h
    simp only [eval, harguments]

theorem evalAll_congr : ∀ {es : List Expr},
    (∀ name ∈ Expr.fieldsAll es, seen written read name = seen written' read' name) →
    evalAll fs written read es = evalAll fs written' read' es
  | [], _ => rfl
  | e :: es, h => by
    obtain ⟨he, hes⟩ := List.forall_mem_append.1 h
    simp only [evalAll, eval_congr he, evalAll_congr hes]

end

/-! ### One instruction after the other -/

variable {is js : List Instruction} {out : Row}

@[simp] theorem target?_filter (condition : Expr) : (Instruction.filter condition).target? = none :=
  rfl

@[simp] theorem target?_assign (target : String) (value : Expr) :
    (Instruction.assign target value).target? = some target := rfl

theorem run_append (is js : List Instruction) (written : Row) :
    run fs read (is ++ js) written =
      match run fs read is written with
      | (.ok .passed, out) => run fs read js out
      | result => result := by
  induction is generalizing written with
  | nil => rfl
  | cons i is ih =>
    cases i with
    | filter condition =>
      simp only [List.cons_append, run]
      cases eval fs written read condition with
      | error e => rfl
      | ok v =>
        simp only [ih]
        split <;> rfl
    | assign target value =>
      simp only [List.cons_append, run]
      cases eval fs written read value with
      | error e => rfl
      | ok v => exact ih _

theorem run_append_eq_passed :
    run fs read (is ++ js) written = (.ok .passed, out) ↔
      ∃ between, run fs read is written = (.ok .passed, between) ∧
        run fs read js between = (.ok .passed, out) := by
  rw [run_append]
  constructor
  · intro h
    split at h
    next between hbetween => exact ⟨between, hbetween, h⟩
    next hnot => exact absurd h (hnot out)
  · rintro ⟨between, hbetween, h⟩
    rw [hbetween]
    exact h

theorem run_assign_eq_passed {target : String} {value : Expr} :
    run fs read (.assign target value :: is) written = (.ok .passed, out) ↔
      ∃ v, eval fs written read value = .ok v ∧
        run fs read is (written.insert target v) = (.ok .passed, out) := by
  rw [run]
  cases eval fs written read value <;> simp

theorem run_filter_eq_passed {condition : Expr} :
    run fs read (.filter condition :: is) written = (.ok .passed, out) ↔
      ∃ v, eval fs written read condition = .ok v ∧ v.holds ∧
        run fs read is written = (.ok .passed, out) := by
  rw [run]
  cases eval fs written read condition with
  | error e => simp
  | ok v => cases hv : v.holds <;> simp [hv]

/-- Whatever becomes of a run, names that it does not write keep their values. -/
theorem get?_run {name : String} (h : ∀ i ∈ is, i.target? ≠ some name) (written : Row) :
    (run fs read is written).2.get? name = written.get? name := by
  induction is generalizing written with
  | nil => rfl
  | cons i is ih =>
    obtain ⟨hi, his⟩ := List.forall_mem_cons.1 h
    cases i with
    | filter condition =>
      rw [run]
      split
      · rfl
      · split
        · exact ih his written
        · rfl
    | assign target value =>
      rw [run]
      split
      · rfl
      next v _ =>
        have hne : name ≠ target := fun heq => hi (congrArg some heq.symm)
        rw [ih his, Dictionary.get?_insert_of_ne _ _ hne]

/-- Filters write nothing. -/
theorem run_filters_snd (h : ∀ i ∈ is, i.target? = none) (written : Row) :
    (run fs read is written).2 = written :=
  Dictionary.ext_get? fun _ => get?_run (fun i hi => by simp [h i hi]) written

/-- A run that passes has written all its names. -/
theorem mem_names_run {name : String} (h : run fs read is written = (.ok .passed, out)) :
    name ∈ out.names ↔ name ∈ written.names ∨ ∃ i ∈ is, i.target? = some name := by
  induction is generalizing written with
  | nil =>
    cases h
    simp
  | cons i is ih =>
    cases i with
    | filter condition =>
      obtain ⟨v, -, -, h⟩ := run_filter_eq_passed.1 h
      simp [ih h]
    | assign target value =>
      obtain ⟨v, -, h⟩ := run_assign_eq_passed.1 h
      rw [ih h, Dictionary.mem_names_iff, Dictionary.mem_names_iff, Dictionary.get?_insert]
      by_cases hname : name = target
      · simp [hname]
      · simp [hname, Ne.symm hname]

end RowSieve

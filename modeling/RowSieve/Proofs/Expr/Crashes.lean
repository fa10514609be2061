import RowSieve.Proofs.Expr.Calls
import RowSieve.Proofs.Expr.Exactness
import RowSieve.Proofs.Function.Builtin

/-!
# Runs that break down

There is one thing that a program must not do with the functions at hand: divide the smallest whole
number by minus one.  `Expr.Performs` and `Instruction.Performs` say that an operator is applied to
two values in the course of a run, and a run breaks down exactly if it performs that division.  All
other runs end, with an outcome or with an error, whatever they call and however many arguments
they give.
-/

namespace RowSieve

variable {fs : Functions} {written read : Row} {operator : Operator} {a b : Value} {c : Crash}

/-! ### What a run performs -/

/-- The left value decides the result on its own. -/
def Operator.decidedBy (operator : Operator) (left : Value) : Bool :=
  (operator = .and && !left.holds) || (operator = .or && left.holds)

/-- When the expression is worked out, the operator is applied to the two values. -/
inductive Expr.Performs (fs : Functions) (written read : Row) (operator : Operator) (a b : Value) :
    Expr → Prop where
  /-- The expression applies it. -/
  | apply {left right} : eval fs written read left = .ok a → operator.decidedBy a = false →
    eval fs written read right = .ok b →
    Performs fs written read operator a b (.binary operator left right)
  /-- It is applied below a negation. -/
  | not {operand} : Performs fs written read operator a b operand →
    Performs fs written read operator a b (.not operand)
  /-- It is applied on the left side of another one. -/
  | left {other left right} : Performs fs written read operator a b left →
    Performs fs written read operator a b (.binary other left right)
  /-- It is applied on the right side of another one, which the left side does not decide. -/
  | right {other left right v} : eval fs written read left = .ok v →
    other.decidedBy v = false → Performs fs written read operator a b right →
    Performs fs written read operator a b (.binary other left right)
  /-- It is applied in an argument, the ones before having values. -/
  | argument {name f before e after values} : fs.get? name = some f →
    evalAll fs written read before = .ok values → Performs fs written read operator a b e →
    Performs fs written read operator a b (.call name (before ++ e :: after))

/-- When the instructions are carried out, the operator is applied to the two values. -/
inductive Instruction.Performs (fs : Functions) (read : Row) (operator : Operator) (a b : Value) :
    List Instruction → Row → Prop where
  /-- It is applied in the first one. -/
  | first {i is written} : i.expr.Performs fs written read operator a b →
    Performs fs read operator a b (i :: is) written
  /-- It is applied after a filter that holds. -/
  | filter {condition is written v} : eval fs written read condition = .ok v → v.holds →
    Performs fs read operator a b is written →
    Performs fs read operator a b (.filter condition :: is) written
  /-- It is applied after an assignment. -/
  | assign {target value is written v} : eval fs written read value = .ok v →
    Performs fs read operator a b is (written.insert target v) →
    Performs fs read operator a b (.assign target value :: is) written

/-! ### Expressions that break down -/

/-- A binary expression is decided by its left side or applies its operator. -/
theorem eval_binary (left right : Expr) (h : eval fs written read left = .ok a) :
    eval fs written read (.binary operator left right) =
      if operator.decidedBy a then .ok (.boolean a.holds)
      else (eval fs written read right).bind (applyOperator operator a) := by
  simp only [eval, h, Operator.decidedBy]
  cases eval fs written read right <;> by_cases hholds : a.holds = true <;> cases operator <;>
    simp [hholds, Except.bind]

theorem applyOperator_divide_min :
    applyOperator .divide (.integer Int64.minValue) (.integer (-1)) =
      .error (.crash .remainderOverflow) := rfl

theorem evalAll_append_error {before after : List Expr} {values : List Value} {e : Expr}
    {fall : Fall} (hbefore : evalAll fs written read before = .ok values)
    (he : eval fs written read e = .error fall) :
    evalAll fs written read (before ++ e :: after) = .error fall := by
  induction before generalizing values with
  | nil => simp only [List.nil_append, evalAll, he]
  | cons first before ih =>
    simp only [evalAll] at hbefore
    split at hbefore
    next => cases hbefore
    next v hv =>
      obtain ⟨values, hvalues, -⟩ := map_eq_ok_iff.1 hbefore
      simp only [List.cons_append, evalAll, hv, ih hvalues]
      rfl

/-- An operator that breaks down takes the expression down with it. -/
theorem eval_of_performs {e : Expr} (happly : applyOperator operator a b = .error (.crash c))
    (h : e.Performs fs written read operator a b) :
    eval fs written read e = .error (.crash c) := by
  induction h with
  | apply hleft hopen hright =>
    rw [eval_binary _ _ hleft, hopen, hright]
    exact happly
  | not _ ih => simp only [eval, ih]
  | left _ ih => simp only [eval, ih]
  | right hleft hopen _ ih =>
    rw [eval_binary _ _ hleft, hopen, ih]
    rfl
  | argument hf hbefore _ ih => simp only [eval, hf, evalAll_append_error hbefore ih]

/-- The functions look for no argument that is missing where they accept the number of them. -/
def Functions.Steady (fs : Functions) : Prop :=
  ∀ name f, fs.get? name = some f → ∀ values : List Value, f.accepts values.length = true →
    ∀ c, f.call values ≠ .error (.crash c)

theorem applyFunction_ne_crash (hfs : fs.Steady) {name : String} {f : Function}
    (hf : fs.get? name = some f) (values : List Value) :
    applyFunction name f values ≠ .error (.crash c) := by
  unfold applyFunction
  split
  next haccepts =>
    split
    next => nofun
    next => nofun
    next c hcall => exact absurd hcall (hfs name f hf values haccepts c)
  next => nofun

/-- The division that breaks down. -/
theorem divides_of_applyOperator (h : applyOperator operator a b = .error (.crash c)) :
    c = .remainderOverflow ∧ operator = .divide ∧ a = .integer Int64.minValue ∧
      b = .integer (-1) := by
  cases falls_of_applyOperator h with
  | @crash m n hoperator ha hb hm hn =>
    have hmin : m = Int64.minValue := Int64.toInt_inj.1 hm
    have hone : n = -1 := Int64.toInt_inj.1 hn
    exact ⟨rfl, hoperator, hmin ▸ ha, hone ▸ hb⟩

mutual

/-- An expression that breaks down divides the smallest whole number by minus one. -/
theorem performs_of_eval (hfs : fs.Steady) : ∀ {e : Expr},
    eval fs written read e = .error (.crash c) →
    c = .remainderOverflow ∧
      e.Performs fs written read .divide (.integer Int64.minValue) (.integer (-1))
  | .not operand, h => by
    rw [eval] at h
    split at h
    next e he =>
      cases h
      exact (performs_of_eval hfs he).imp_right .not
    next => cases h
  | .binary operator left right, h => by
    cases hleft : eval fs written read left with
    | error e =>
      simp only [eval, hleft] at h
      cases h
      exact (performs_of_eval hfs hleft).imp_right .left
    | ok a =>
      rw [eval_binary _ _ hleft] at h
      split at h
      next => cases h
      next hopen =>
        have hopen : operator.decidedBy a = false := Bool.eq_false_iff.2 hopen
        cases hright : eval fs written read right with
        | error e =>
          rw [hright] at h
          cases h
          exact (performs_of_eval hfs hright).imp_right (.right hleft hopen)
        | ok b =>
          rw [hright] at h
          obtain ⟨rfl, rfl, rfl, rfl⟩ := divides_of_applyOperator h
          exact ⟨rfl, .apply hleft hopen hright⟩
  | .call name arguments, h => by
    rw [eval] at h
    split at h
    next => cases h
    next f hf =>
      split at h
      next e he =>
        cases h
        obtain ⟨hc, before, e, after, values, rfl, hbefore, hperforms⟩ :=
          performs_of_evalAll hfs he
        exact ⟨hc, .argument hf hbefore hperforms⟩
      next values _ => exact absurd h (applyFunction_ne_crash hfs hf values)

theorem performs_of_evalAll (hfs : fs.Steady) : ∀ {es : List Expr},
    evalAll fs written read es = .error (.crash c) →
    c = .remainderOverflow ∧ ∃ before e after values, es = before ++ e :: after ∧
      evalAll fs written read before = .ok values ∧
      e.Performs fs written read .divide (.integer Int64.minValue) (.integer (-1))
  | e :: es, h => by
    rw [evalAll] at h
    split at h
    next fall he =>
      cases h
      obtain ⟨hc, hperforms⟩ := performs_of_eval hfs he
      exact ⟨hc, [], e, es, [], rfl, rfl, hperforms⟩
    next v hv =>
      obtain ⟨hc, before, e', after, values, rfl, hbefore, hperforms⟩ :=
        performs_of_evalAll hfs (map_eq_error_iff.1 h)
      exact ⟨hc, e :: before, e', after, v :: values, rfl, by simp only [evalAll, hv, hbefore]; rfl,
        hperforms⟩

end

/-! ### Runs that break down -/

theorem run_eq_crash_iff (hfs : fs.Steady) {is : List Instruction} :
    (run fs read is written).1 = .error (.crash c) ↔ c = .remainderOverflow ∧
      Instruction.Performs fs read .divide (.integer Int64.minValue) (.integer (-1)) is written := by
  constructor
  · intro h
    induction is generalizing written with
    | nil => cases h
    | cons i is ih =>
      cases i with
      | filter condition =>
        rw [run] at h
        split at h
        next e he =>
          cases h
          exact (performs_of_eval hfs he).imp_right .first
        next v hv =>
          split at h
          next hholds => exact (ih h).imp_right (.filter hv hholds)
          next => cases h
      | assign target value =>
        rw [run] at h
        split at h
        next e he =>
          cases h
          exact (performs_of_eval hfs he).imp_right .first
        next v hv => exact (ih h).imp_right (.assign hv)
  · rintro ⟨rfl, h⟩
    induction h with
    | @first i is written h =>
      have hi : eval fs written read i.expr = .error (.crash .remainderOverflow) :=
        eval_of_performs applyOperator_divide_min h
      cases i with
      | filter condition =>
        have hcondition : eval fs written read condition = _ := hi
        simp only [run, hcondition]
      | assign target value =>
        have hvalue : eval fs written read value = _ := hi
        simp only [run, hvalue]
    | filter hv hholds _ ih => simpa only [run, hv, hholds, if_true] using ih
    | assign hv _ ih => simpa only [run, hv] using ih

theorem steady_builtin : Functions.builtin.Steady := fun _ _ hf values haccepts =>
  (Function.sound_of_builtin hf values haccepts).calm

/-- **Only one division breaks a program down.**  With the functions at hand, a run divides the
smallest whole number by minus one and breaks down, or it does neither and ends with an outcome or
an error.  No such function looks for an argument that is missing, and a whole number that comes
from a function or an operator is the exact one. -/
theorem run_breaks_down_only_by_division (is : List Instruction) (read written : Row) :
    ((Instruction.Performs .builtin read .divide (.integer Int64.minValue) (.integer (-1)) is
          written ∧
        (run .builtin read is written).1 = .error (.crash .remainderOverflow)) ∨
      (¬ Instruction.Performs .builtin read .divide (.integer Int64.minValue) (.integer (-1)) is
          written ∧
        ((run .builtin read is written).1 = .ok .passed ∨
          (run .builtin read is written).1 = .ok .filtered ∨
          ∃ e, (run .builtin read is written).1 = .error (.error e)))) ∧
    (∀ name f, Functions.builtin.get? name = some f →
      ∀ values : List Value, f.accepts values.length = true →
        (∀ c, f.call values ≠ .error (.crash c)) ∧
        (Function.HaveRoom values → ∀ n, f.call values = .ok (.integer n) →
          Function.Computes values (Text.lowercase name) n.toInt)) ∧
    ∀ operator a b n, applyOperator operator a b = .ok (.integer n) →
      operator.Exact a b n.toInt := by
  have hcrash : ∀ c, (run .builtin read is written).1 = .error (.crash c) ↔ c = .remainderOverflow ∧
      Instruction.Performs .builtin read .divide (.integer Int64.minValue) (.integer (-1)) is
        written := fun _ => run_eq_crash_iff steady_builtin
  refine ⟨?_, fun name f hf values haccepts => ?_, fun _ _ _ _ => exact_of_applyOperator⟩
  · by_cases hperforms : Instruction.Performs .builtin read .divide (.integer Int64.minValue)
        (.integer (-1)) is written
    · exact .inl ⟨hperforms, (hcrash _).2 ⟨rfl, hperforms⟩⟩
    · refine .inr ⟨hperforms, ?_⟩
      cases hrun : (run .builtin read is written).1 with
      | ok outcome => cases outcome <;> simp
      | error fall =>
        cases fall with
        | error e => exact .inr (.inr ⟨e, rfl⟩)
        | crash c => exact absurd ((hcrash c).1 hrun).2 hperforms
  · have hsound := Function.sound_of_builtin hf values haccepts
    exact ⟨hsound.calm, fun hroom n hcall => hsound.gives _ hcall hroom n rfl⟩

/-- The division breaks down behind a filter that holds and below a negation. -/
theorem run_breaks_down_behind_filter :
    (run .builtin (Dictionary.ofList [("a", .integer Int64.minValue)])
      [.filter (.boolean true),
        .assign "b" (.not (.binary .divide (.field "a") (.integer (-1))))] .empty).1 =
      .error (.crash .remainderOverflow) := by
  obtain ⟨⟨-, hcrash⟩ | ⟨hnot, -⟩, -⟩ := run_breaks_down_only_by_division
    [.filter (.boolean true), .assign "b" (.not (.binary .divide (.field "a") (.integer (-1))))]
    (Dictionary.ofList [("a", .integer Int64.minValue)]) .empty
  · exact hcrash
  · exact absurd (.filter rfl rfl (.first (.not (.apply rfl rfl rfl)))) hnot

end RowSieve

import RowSieve.Proofs.Expr.Acceptance

/-!
# What errors in programs speak of

An error in a program names the token that should not stand where it does, or the spelling of a
number.  Both come from the tokens that are left when the reader that fails is called
(`Compile.Reports`).  This goes through all readers, one after the other, and so every error in a
program speaks of a token of its source (`speaksOf_of_compile`).
-/

namespace RowSieve

/-- What the error names is found among the tokens. -/
inductive CompileError.SpeaksOf (ts : List Token) : CompileError → Prop where
  /-- Something else should stand in place of one of them. -/
  | unexpected {expected found} : found ∈ ts → SpeaksOf ts (.unexpected expected found)
  /-- There is no such function. -/
  | unknownFunction {name} : SpeaksOf ts (.unknownFunction name)
  /-- A function is given the wrong number of arguments. -/
  | arity {name expected found} : SpeaksOf ts (.arity name expected found)
  /-- One of them is a number whose spelling stands for none. -/
  | invalidNumber {t} : t ∈ ts → t.kind = .number → Decimal.readFloat? t.text = none →
    SpeaksOf ts (.invalidNumber t.text)
  /-- There are no instructions. -/
  | noInstructions : SpeaksOf ts .noInstructions

theorem CompileError.SpeaksOf.mono {ts us : List Token} {e : CompileError} (h : e.SpeaksOf us)
    (hus : us ⊆ ts) : e.SpeaksOf ts := by
  cases h with
  | unexpected hmem => exact .unexpected (hus hmem)
  | unknownFunction => exact .unknownFunction
  | arity => exact .arity
  | invalidNumber hmem hk hnone => exact .invalidNumber (hus hmem) hk hnone
  | noInstructions => exact .noInstructions

namespace Compile

variable {α β : Type} {fs : Functions} {p : Compile α} {t : Token} {ts us : List Token}
  {e : CompileError}

/-! ### Basic readers -/

/-- Where the reader fails in front of the tokens, the error speaks of one of them, and where it
succeeds, some of them are left behind it. -/
structure ReportsOn (ts : List Token) (p : Compile α) : Prop where
  /-- Some tokens are left, up to the end of the input. -/
  left : ∀ ⦃a us⦄, p ts = .ok (a, us) → Terminated us ∧ us <:+ ts
  /-- The error speaks of one of the tokens. -/
  error : ∀ ⦃e⦄, p ts = .error e → e.SpeaksOf ts

/-- Wherever the reader fails, the error speaks of a token that was left to it. -/
def Reports (p : Compile α) : Prop := ∀ ⦃ts⦄, Terminated ts → ReportsOn ts p

theorem bind_eq_error {f : α → Compile β} (h : (p >>= f) ts = .error e) :
    p ts = .error e ∨ ∃ a us, p ts = .ok (a, us) ∧ f a us = .error e := by
  change (StateT.bind p f ts : Except CompileError (β × List Token)) = _ at h
  unfold StateT.bind at h
  cases hp : p ts with
  | error e' =>
    rw [hp] at h
    cases h
    exact .inl rfl
  | ok result =>
    rw [hp] at h
    exact .inr ⟨_, _, rfl, h⟩

theorem Reports.bind {f : α → Compile β} (hp : Reports p) (hf : ∀ a, Reports (f a)) :
    Reports (p >>= f) := by
  refine fun ts hts => ⟨fun b vs h => ?_, fun e h => ?_⟩
  · obtain ⟨a, us, ha, hb⟩ := bind_eq_ok.1 h
    obtain ⟨hus, hsuffix⟩ := (hp hts).left ha
    obtain ⟨hvs, hsuffix'⟩ := (hf a hus).left hb
    exact ⟨hvs, hsuffix'.trans hsuffix⟩
  · rcases bind_eq_error h with h | ⟨a, us, ha, h⟩
    · exact (hp hts).error h
    · obtain ⟨hus, hsuffix⟩ := (hp hts).left ha
      exact ((hf a hus).error h).mono hsuffix.subset

/-- A reader that only looks at the tokens. -/
theorem reports_of_looking (f : List Token → α) :
    Reports (fun ts => .ok (f ts, ts) : Compile α) := by
  refine fun ts hts => ⟨fun a us h => ?_, nofun⟩
  cases h
  exact ⟨hts, List.suffix_refl _⟩

theorem reports_pure (a : α) : Reports (pure a : Compile α) := reports_of_looking fun _ => a

theorem reports_peek : Reports peek := reports_of_looking _

theorem reports_peekSecond : Reports peekSecond := reports_of_looking _

theorem reports_remaining : Reports remaining := reports_of_looking _

theorem reports_check (kind : Kind) : Reports (check kind) :=
  reports_peek.bind fun _ => reports_pure _

theorem reports_advance : Reports advance := by
  refine fun ts hts => ⟨fun a us h => ?_, nofun⟩
  cases hts with
  | last ht =>
    cases h
    exact ⟨.last ht, List.suffix_refl _⟩
  | @cons t ts ht hts =>
    have hlen := List.length_pos_iff.2 hts.ne_nil
    rw [advance, if_pos (by simpa using hlen)] at h
    cases h
    exact ⟨hts, List.suffix_cons _ _⟩

theorem reports_fail (expected : String) : Reports (fail expected : Compile α) := by
  refine fun ts hts => ⟨fun a us h => absurd h fail_ne_ok, fun e h => ?_⟩
  obtain ⟨t, ts, rfl⟩ := hts.exists_cons
  cases h
  exact .unexpected (.head _)

theorem reports_expect (kind : Kind) (expected : String) : Reports (expect kind expected) := by
  refine (reports_check kind).bind fun found => ?_
  split
  · exact reports_advance
  · exact reports_fail expected

theorem reportsOn_bind_peek {f : Token → Compile α} (h : ReportsOn (t :: ts) (f t)) :
    ReportsOn (t :: ts) (peek >>= f) := ⟨h.left, h.error⟩

theorem lift_eq_error {x : Except CompileError α} (h : (liftM x : Compile α) ts = .error e) :
    x = .error e := by
  cases x with
  | error e' =>
    cases h
    rfl
  | ok a => cases h

theorem reports_checkCall (name : String) (count : Nat) :
    Reports (liftM (checkCall fs name count) : Compile Unit) := by
  refine fun ts hts => ⟨fun a us h => ?_, fun e h => ?_⟩
  · obtain ⟨-, rfl⟩ := lift_eq_ok.1 h
    exact ⟨hts, List.suffix_refl _⟩
  · have he := lift_eq_error h
    unfold checkCall at he
    split at he
    · cases he
      exact .unknownFunction
    · split at he
      · cases he
      · cases he
        exact .arity

/-! ### Expressions -/

section

variable {operand : Compile Expr} {operator? : Token → Option Operator}

theorem Reports.chainFrom (h : Reports operand) (bound : Nat) (left : Expr) :
    Reports (Compile.chainFrom operator? operand bound left) := by
  induction bound generalizing left with
  | zero => exact reports_pure left
  | succ bound ih =>
    refine reports_peek.bind fun t => ?_
    split
    · exact reports_pure left
    · exact reports_advance.bind fun _ => h.bind fun right => ih _

theorem Reports.leftChain (h : Reports operand) (operator? : Token → Option Operator) :
    Reports (Compile.leftChain operator? operand) :=
  h.bind fun _ => reports_remaining.bind fun _ => h.chainFrom _ _

theorem Reports.negationWithin (h : Reports operand) (bound : Nat) :
    Reports (Compile.negationWithin operand bound) := by
  induction bound with
  | zero => exact h
  | succ bound ih =>
    refine reports_peek.bind fun t => ?_
    split
    · exact reports_advance.bind fun _ => ih.bind fun _ => reports_pure _
    · exact h

theorem Reports.negation (h : Reports operand) : Reports (Compile.negation operand) :=
  reports_remaining.bind fun _ => h.negationWithin _

theorem Reports.comparison (h : Reports operand) : Reports (Compile.comparison operand) := by
  refine h.bind fun left => reports_peek.bind fun t => ?_
  split
  · exact reports_pure left
  · exact reports_advance.bind fun _ => h.bind fun _ => reports_pure _

theorem Reports.signWithin (h : Reports operand) (bound : Nat) :
    Reports (Compile.signWithin operand bound) := by
  induction bound with
  | zero => exact h
  | succ bound ih =>
    refine (reports_check _).bind fun found => ?_
    split
    · exact reports_advance.bind fun _ => ih.bind fun _ => reports_pure _
    · exact h

theorem Reports.sign (h : Reports operand) : Reports (Compile.sign operand) :=
  reports_remaining.bind fun _ => h.signWithin _

end

section

variable {inner : Compile Expr}

theorem Reports.arguments (h : Reports inner) (bound : Nat) :
    Reports (argumentsWithin inner bound) := by
  induction bound with
  | zero => exact reports_fail _
  | succ bound ih =>
    refine h.bind fun first => (reports_check _).bind fun found => ?_
    split
    · exact reports_advance.bind fun _ => ih.bind fun _ => reports_pure _
    · exact reports_pure _

theorem Reports.call (h : Reports inner) (name : String) :
    Reports (Compile.call fs inner name) := by
  have hclose (arguments : List Expr) : Reports (closeCall fs name arguments) :=
    (reports_expect _ _).bind fun _ => (reports_checkCall _ _).bind fun _ => reports_pure _
  rw [call_eq]
  refine (reports_expect _ _).bind fun _ => (reports_check _).bind fun found => ?_
  split
  · exact hclose []
  · exact reports_remaining.bind fun _ => (h.arguments _).bind hclose

theorem numberOf_eq_error {spelling : String} (h : numberOf spelling = .error e) :
    e = .invalidNumber spelling ∧ Decimal.readFloat? spelling = none := by
  unfold numberOf at h
  split at h
  · cases h
  · split at h
    next => cases h
    next hnone =>
      cases h
      exact ⟨rfl, hnone⟩

theorem reportsOn_number (hts : Terminated (t :: ts)) (hk : t.kind = .number) :
    ReportsOn (t :: ts) (do
      advance
      numberOf t.text : Compile Expr) := by
  have htail := hts.tail (by rw [hk]; decide)
  refine ⟨fun a us h => ?_, fun e h => ?_⟩
  · rw [bind_advance htail.ne_nil] at h
    obtain ⟨-, rfl⟩ := lift_eq_ok.1 h
    exact ⟨htail, List.suffix_cons _ _⟩
  · rw [bind_advance htail.ne_nil] at h
    obtain ⟨rfl, hnone⟩ := numberOf_eq_error (lift_eq_error h)
    exact .invalidNumber (.head _) hk hnone

theorem Reports.primary (h : Reports inner) : Reports (Compile.primary fs inner) := by
  intro ts hts
  obtain ⟨t, ts, rfl⟩ := hts.exists_cons
  refine reportsOn_bind_peek ?_
  generalize hk : t.kind = kind
  split
  · exact reportsOn_number hts hk
  · exact (reports_advance.bind fun _ => reports_pure _) hts
  · refine (reports_advance.bind fun _ => h.bind fun _ => ?_) hts
    exact (reports_expect _ _).bind fun _ => reports_pure _
  · refine (reports_advance.bind fun _ => (reports_check _).bind fun found => ?_) hts
    split
    · exact h.call _
    · exact reports_pure _
  · exact reports_fail _ hts

theorem Reports.ladder (h : Reports inner) : Reports (Compile.ladder fs inner) :=
  have hprimary : Reports (Compile.primary fs inner) := h.primary
  have hcomparison := ((hprimary.sign.leftChain productOperator?).leftChain sumOperator?).comparison
  (hcomparison.negation.leftChain andOperator?).leftChain orOperator?

end

theorem reports_expressionWithin (bound : Nat) : Reports (expressionWithin fs bound) := by
  induction bound with
  | zero => exact reports_fail _
  | succ bound ih => exact ih.ladder

theorem reports_expression : Reports (expression fs) :=
  reports_remaining.bind fun _ => reports_expressionWithin _

/-! ### Instructions -/

theorem reports_instruction : Reports (instruction fs) := by
  refine reports_peek.bind fun t => ?_
  split
  · refine reports_advance.bind fun _ => (reports_expect _ _).bind fun _ => ?_
    refine reports_expression.bind fun _ => (reports_expect _ _).bind fun _ => reports_pure _
  · refine reports_peekSecond.bind fun kind => ?_
    split
    · refine reports_advance.bind fun _ => reports_advance.bind fun _ => ?_
      exact reports_expression.bind fun _ => reports_pure _
    · exact reports_expression.bind fun _ => reports_pure _

theorem reports_skipSemicolons : Reports skipSemicolons := by
  refine fun ts hts => ⟨fun a us h => ?_, nofun⟩
  cases h
  exact ⟨hts.dropSemicolons, List.dropWhile_suffix _⟩

theorem reports_instructionsWithin (bound : Nat) : Reports (instructionsWithin fs bound) := by
  induction bound with
  | zero => exact reports_pure _
  | succ bound ih =>
    refine reports_skipSemicolons.bind fun _ => (reports_check _).bind fun finished => ?_
    split
    · exact reports_pure _
    · refine reports_instruction.bind fun first => (reports_check _).bind fun finished => ?_
      have hrest : Reports (do return first :: (← instructionsWithin fs bound)) :=
        ih.bind fun _ => reports_pure _
      split
      · exact (reports_expect _ _).bind fun _ => hrest
      · exact hrest

theorem reports_program : Reports (program fs) := by
  refine reports_remaining.bind fun _ => (reports_instructionsWithin _).bind fun instructions => ?_
  split
  · refine fun ts _ => ⟨nofun, fun e h => ?_⟩
    cases h
    exact .noInstructions
  · exact reports_pure _

end Compile

/-- Every error in a program speaks of a token of its source, once there are tokens. -/
theorem speaksOf_of_compile {source : String} {raw : List Token} (h : scan source = .ok raw)
    {fs : Functions} {e : CompileError} (he : compile fs source = .error e) : e.SpeaksOf raw := by
  simp only [compile, programTokens, h] at he
  cases hp : (Compile.program fs).run (raw.filter fun t => t.kind ≠ .comment) with
  | ok result =>
    rw [hp] at he
    cases he
  | error e' =>
    rw [hp] at he
    cases he
    have hspeaks := (Compile.reports_program (terminated_of_scan h)).error hp
    exact hspeaks.mono List.filter_sublist.subset

end RowSieve

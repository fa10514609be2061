import RowSieve.Proofs.Expr.Calls
import RowSieve.Proofs.Request.Derivation

/-!
# Arguments as programs read them

The tokens of an argument, with every function a plain word again, are an expression of a program,
and the program makes of it what a request does: `Compile.yields_argument`.  `Compile.Yields` says
so of a reader.  As a name, a number, a text and a call are tight operands, each level of operators
yields what the next tighter one does (`Compile.Yields.ladder`), save for the sign of a number.

The two disagree on some arguments, which are not `Node.Portable`.
-/

namespace RowSieve

open Phrase

variable {fs : Functions} {n : Node} {ns : List Node} {ts us : List Token} {t u : Token}

/-- The token in a plain scan, which knows of no functions. -/
def Token.unlabelled (t : Token) : Token :=
  if t.kind = .function then { t with kind := .word } else t

@[simp] theorem Token.text_unlabelled (t : Token) : t.unlabelled.text = t.text := by
  unfold unlabelled
  split <;> rfl

theorem Token.unlabelled_of_kind_ne (h : t.kind ≠ .function) : t.unlabelled = t := if_neg h

theorem Token.kind_unlabelled_of_name (h : t.kind = .word ∨ t.kind = .function) :
    t.unlabelled.kind = .word := by
  rcases h with h | h <;> simp [unlabelled, h]

theorem Token.kind_unlabelled_ne {kind : Kind} (h : t.kind ≠ kind) (hk : .word ≠ kind) :
    t.unlabelled.kind ≠ kind := by
  unfold unlabelled
  split
  · exact hk
  · exact h

/-- A program reads the expression as a request does: no name in it is a word with a meaning of its
own, no text needs a backslash, and no number is the one whose opposite does not fit. -/
inductive Node.Portable : Node → Prop where
  /-- A field is no literal, and no negation. -/
  | field {name} : Text.asciiLower name ∉ ["true", "false", "null", "not"] → Portable (.field name)
  /-- A number is not the least one. -/
  | number {spelling} : Decimal.readInt? spelling.toList ≠ some (-2 ^ 63) →
    Portable (.number spelling)
  /-- A text has no backslash. -/
  | text {s} : '\\' ∉ s.toList → Portable (.text s)
  /-- A call is no negation. -/
  | call {function arguments} : Text.asciiLower function ≠ "not" →
    (∀ n ∈ arguments, Portable n) → Portable (.call function arguments)

namespace Phrase

/-- What the tokens of an argument can be. -/
theorem Argument.kind_mem (h : Argument ts n) : ∀ t ∈ ts, t.kind ∈
    [Kind.word, .function, .number, .text, .minus, .leftParen, .comma, .rightParen] := by
  induction h using Argument.induct with
  | field hk => simp [hk]
  | number hk => simp [hk]
  | text hk => simp [hk]
  | negative hm hk => simp [hm, hk]
  | call hk _ ih =>
    refine List.forall_mem_cons.2 ⟨by rcases hk with hk | hk <;> simp [hk], ?_⟩
    refine ih.forall_mem (fun t ht => ?_) fun _ _ h => h.2
    exact List.Sublist.subset (by decide) ht

theorem Argument.kind_unlabelled (h : Argument ts n) : ∀ t ∈ ts.map Token.unlabelled, t.kind ∉
    [Kind.assign, .comment, .question, .endOfStatement, .endOfInput] := by
  intro t ht
  obtain ⟨v, hv, rfl⟩ := List.mem_map.1 ht
  have hk := h.kind_mem v hv
  simp only [List.mem_cons, List.not_mem_nil, or_false] at hk
  rcases hk with hk | hk | hk | hk | hk | hk | hk | hk <;> simp [Token.unlabelled, hk]

/-- In front of the end, an argument is neither a filter nor an assignment. -/
theorem Argument.exists_head (h : Argument ts n) (hu : u.kind = .endOfInput) :
    ∃ t v us, ts.map Token.unlabelled ++ [u] = t :: v :: us ∧
      t.kind ∉ [Kind.question, .endOfStatement, .endOfInput] ∧ v.kind ≠ .assign := by
  obtain ⟨t, vs, rfl, -⟩ := Argument.opens h
  have hkinds := h.kind_unlabelled
  rw [List.map_cons, List.forall_mem_cons] at hkinds
  refine ⟨t.unlabelled, ?_⟩
  cases vs with
  | nil => exact ⟨u, [], rfl, fun hmem => hkinds.1 (.tail _ (.tail _ hmem)), by simp [hu]⟩
  | cons v vs =>
    refine ⟨v.unlabelled, _, rfl, fun hmem => hkinds.1 (.tail _ (.tail _ hmem)), fun hk => ?_⟩
    exact hkinds.2 v.unlabelled (.head _) (by simp [hk])

end Phrase

/-! ### Calls of a request -/

namespace Node

theorem toExprs_cons_eq_ok_iff {es : List Expr} :
    toExprs fs (n :: ns) = .ok es ↔
      ∃ e es', n.toExpr fs = .ok e ∧ toExprs fs ns = .ok es' ∧ e :: es' = es := by
  rw [toExprs]
  cases n.toExpr fs with
  | error err => simp
  | ok e => simp [map_eq_ok_iff]

theorem toExpr_call_eq_ok_iff {function : String} {e : Expr} :
    (call function ns).toExpr fs = .ok e ↔
      ∃ es, toExprs fs ns = .ok es ∧ Compile.checkCall fs function es.length = .ok () ∧
        .call function es = e := by
  rw [toExpr]
  constructor
  · intro h
    split at h
    next => cases h
    next hcheck =>
      obtain ⟨es, hes, rfl⟩ := map_eq_ok_iff.1 h
      exact ⟨es, hes, (answered_of_toExprs hes).1 ▸ hcheck, rfl⟩
  · rintro ⟨es, hes, hcheck, rfl⟩
    rw [← (answered_of_toExprs hes).1] at hcheck
    simp only [hcheck, map_eq_ok_iff]
    exact ⟨es, hes, rfl⟩

end Node

/-! ### Numbers with a sign -/

namespace Decimal

variable {s : String}

theorem splitSign_minus (s : String) : splitSign ("-" ++ s).toList = (true, s.toList) := by
  rw [String.toList_append]
  rfl

theorem Numeral.readFloat?_minus (h : Numeral s.toList) :
    readFloat? ("-" ++ s) = (readFloat? s).map (- ·) := by
  unfold readFloat?
  rw [splitSign_minus, h.splitSign]
  simp only [Bool.false_eq_true, if_true, if_false, Option.map_map, Function.comp_def]

theorem readInt?_minus (s : String) :
    readInt? ("-" ++ s).toList = (readDigits? s.toList).map fun k : Nat => -(k : Int) := by
  rw [readInt?, splitSign_minus]
  dsimp only
  cases readDigits? s.toList <;> rfl

theorem Numeral.readInt?_eq (h : Numeral s.toList) :
    readInt? s.toList = (readDigits? s.toList).map fun k : Nat => (k : Int) := by
  rw [readInt?, h.splitSign]
  dsimp only
  cases readDigits? s.toList <;> rfl

theorem fitsInt64_neg {k : Nat} (hk : (k : Int) ≠ 2 ^ 63) : fitsInt64 (-k) = fitsInt64 k := by
  rw [Bool.eq_iff_iff]
  simp only [fitsInt64, Bool.and_eq_true, decide_eq_true_eq]
  omega

/-- Save at the end of their range, whole numbers keep fitting when they change their sign. -/
theorem Numeral.readInt64?_minus (h : Numeral s.toList)
    (hs : readInt? ("-" ++ s).toList ≠ some (-2 ^ 63)) :
    readInt64? ("-" ++ s) = (readInt64? s).map (- ·) := by
  rw [readInt?_minus] at hs
  rw [readInt64?, readInt64?, readInt?_minus, h.readInt?_eq]
  cases hdigits : readDigits? s.toList with
  | none => simp
  | some k =>
    rw [hdigits] at hs
    have hk : (k : Int) ≠ 2 ^ 63 := fun hk => hs (congrArg (fun i => some (-i)) hk)
    have hfits := fitsInt64_neg hk
    rw [Option.map_some, Option.map_some, Option.bind_some, Option.bind_some]
    by_cases hin : fitsInt64 k = true
    · rw [if_pos (hfits.trans hin), if_pos hin, Int64.ofInt_neg, Option.map_some]
    · rw [if_neg (by rwa [hfits]), if_neg hin, Option.map_none]

end Decimal

namespace Compile

/-- The sign of a number is part of its spelling. -/
theorem numberOf_minus {s : String} (h : Decimal.Numeral s.toList)
    (hs : Decimal.readInt? ("-" ++ s).toList ≠ some (-2 ^ 63)) {e : Expr} :
    numberOf ("-" ++ s) = .ok e ↔ ∃ e', numberOf s = .ok e' ∧ negate e' = e := by
  obtain ⟨x, hx⟩ := Option.isSome_iff_exists.1 h.isSome_readFloat?
  rw [numberOf, numberOf, h.readInt64?_minus hs, h.readFloat?_minus, hx]
  cases Decimal.readInt64? s with
  | none => simp [negate]
  | some n => simp [negate]

/-! ### Readers of operands -/

variable {α : Type} {operand inner : Compile Expr} {x : Except CompileError Expr}

/-- What is known of a reader decides what is read with it. -/
theorem bind_eq_ok_iff_of_eq_ok_iff {β : Type} {p : Compile α} {x : Except CompileError α}
    (h : ∀ a ts', p ts = .ok (a, ts') ↔ x = .ok a ∧ us = ts') {f : α → Compile β} {b : β}
    {ts' : List Token} :
    (p >>= f) ts = .ok (b, ts') ↔ ∃ a, x = .ok a ∧ f a us = .ok (b, ts') := by
  rw [bind_eq_ok]
  constructor
  · rintro ⟨a, ts'', ha, hb⟩
    obtain ⟨hx, rfl⟩ := (h a ts'').1 ha
    exact ⟨a, hx, hb⟩
  · rintro ⟨a, hx, hb⟩
    exact ⟨a, us, (h a us).2 ⟨hx, rfl⟩, hb⟩

/-- In front of what may come after an expression, the reader takes the tokens for what `x` is, and
fails if `x` does. -/
def Yields (p : Compile α) (ts : List Token) (x : Except CompileError α) : Prop :=
  ∀ u us, Closes u → ∀ a ts', p (ts ++ u :: us) = .ok (a, ts') ↔ x = .ok a ∧ u :: us = ts'

/-- A level of operators that finds none behind its first operand. -/
theorem Yields.bind_of_closes (h : Yields operand ts x) {f : Expr → Compile Expr}
    (hf : ∀ e u us, Closes u → f e (u :: us) = .ok (e, u :: us)) : Yields (operand >>= f) ts x := by
  intro u us hu e ts'
  rw [bind_eq_ok_iff_of_eq_ok_iff (h u us hu)]
  constructor
  · rintro ⟨e', hx, hrest⟩
    rw [hf e' u us hu] at hrest
    cases hrest
    exact ⟨hx, rfl⟩
  · rintro ⟨hx, rfl⟩
    exact ⟨e, hx, hf e u us hu⟩

theorem Yields.leftChain (h : Yields operand ts x) {operator? : Token → Option Operator}
    (hop : ∀ u, Closes u → operator? u = none) : Yields (leftChain operator? operand) ts x :=
  h.bind_of_closes fun e u us hu => by simp [chainFrom, hop u hu]

theorem Yields.comparison (h : Yields operand ts x) : Yields (comparison operand) ts x :=
  h.bind_of_closes fun e u us hu => by simp [(stopsComparison_of_closes hu).2]

theorem Yields.negation (h : Yields operand (t :: ts) x) (ht : spells t "not" = false) :
    Yields (negation operand) (t :: ts) x := by
  intro u us hu e ts'
  rw [← h u us hu e ts', List.cons_append, Compile.negation, bind_remaining, List.length_cons,
    negationWithin, bind_peek, ht]
  rfl

theorem Yields.sign (h : Yields operand (t :: ts) x) (ht : t.kind ≠ .minus) :
    Yields (sign operand) (t :: ts) x := by
  intro u us hu e ts'
  rw [← h u us hu e ts', List.cons_append, Compile.sign, bind_remaining, List.length_cons,
    signWithin, bind_check, if_neg (by simpa using ht)]

/-- Where an operand stands behind the word `not` or a sign, it is none of them. -/
theorem Yields.ladder (h : Yields (Compile.sign (primary fs inner)) (t :: ts) x)
    (ht : spells t "not" = false) : Yields (ladder fs inner) (t :: ts) x := by
  have hcompared := ((h.leftChain fun u hu => (stopsComparison_of_closes hu).1.1.2).leftChain
    fun u hu => (stopsComparison_of_closes hu).1.2).comparison
  refine ((hcompared.negation ht).leftChain fun u hu => ?_).leftChain fun u hu => ?_
  · simp [andOperator?, spells_eq_false_of_closes hu]
  · simp [orOperator?, spells_eq_false_of_closes hu]

/-! ### Operands -/

theorem spells_eq_false_of_kind (h : t.kind ≠ .word) (word : String) : spells t word = false := by
  simp [spells, h]

theorem kind_ne_leftParen_of_closes (hu : Closes u) : u.kind ≠ .leftParen :=
  (stopsComparison_of_closes hu).1.1.1

theorem yields_word (hk : t.kind = .word) :
    Yields (primary fs inner) [t] (.ok (wordValue t.text)) := by
  intro u us hu e ts'
  have hprimary : primary fs inner (t :: u :: us) = .ok (wordValue t.text, u :: us) :=
    primary_of_word hk (kind_ne_leftParen_of_closes hu)
  simp [hprimary]

theorem yields_number (hk : t.kind = .number) :
    Yields (primary fs inner) [t] (numberOf t.text) := by
  intro u us hu e ts'
  simp only [List.cons_append, List.nil_append, primary, bind_peek, hk]
  rw [bind_advance (by simp)]
  exact lift_eq_ok

theorem yields_text (hk : t.kind = .text) : Yields (primary fs inner) [t] (.ok (.text t.text)) := by
  intro u us hu e ts'
  simp only [List.cons_append, List.nil_append, primary, bind_peek, hk]
  rw [bind_advance (by simp)]
  simp

/-- A sign in front of a number. -/
theorem yields_minus {m : Token} (hm : m.kind = .minus) (hk : t.kind = .number)
    (ht : Decimal.Numeral t.text.toList)
    (hs : Decimal.readInt? ("-" ++ t.text).toList ≠ some (-2 ^ 63)) :
    Yields (Compile.sign (primary fs inner)) [m, t] (numberOf ("-" ++ t.text)) := by
  intro u us hu e ts'
  have hyields : Yields (Compile.sign (primary fs inner)) [t] (numberOf t.text) :=
    (yields_number hk).sign (by simp [hk])
  have hnumber := hyields u us hu
  simp only [List.cons_append, List.nil_append, Compile.sign, bind_remaining, List.length_cons]
    at hnumber ⊢
  rw [signWithin, bind_check, if_pos (decide_eq_true hm), bind_advance (by simp),
    bind_eq_ok_iff_of_eq_ok_iff hnumber, numberOf_minus ht hs]
  simp only [pure_eq_ok, ← and_assoc, exists_and_right]

/-! ### Calls -/

theorem closeCall_eq_ok_iff {name : String} {es : List Expr} {e : Expr} {ts' : List Token}
    (hk : t.kind = .rightParen) :
    closeCall fs name es (t :: u :: us) = .ok (e, ts') ↔
      checkCall fs name es.length = .ok () ∧ .call name es = e ∧ u :: us = ts' := by
  refine (bind_expect_eq_ok (by simp)).trans ((and_iff_right hk).trans (bind_eq_ok.trans ?_))
  constructor
  · rintro ⟨_, ts'', hlift, hrest⟩
    obtain ⟨hcheck, rfl⟩ := lift_eq_ok.1 hlift
    exact ⟨hcheck, pure_eq_ok.1 hrest⟩
  · rintro ⟨hcheck, hrest⟩
    exact ⟨(), _, lift_eq_ok.2 ⟨hcheck, rfl⟩, pure_eq_ok.2 hrest⟩

/-- The reader yields what a request makes of the arguments. -/
def YieldsArgument (fs : Functions) (inner : Compile Expr) : Phrase Node := fun ts n =>
  Yields inner (ts.map Token.unlabelled) (n.toExpr fs)

theorem yields_arguments (h : Separated .comma (YieldsArgument fs inner) ts ns) {bound : Nat}
    (hb : ts.length < bound) (hu : u.kind = .rightParen) (us : List Token) (es : List Expr)
    (ts' : List Token) :
    argumentsWithin inner bound (ts.map Token.unlabelled ++ u :: us) = .ok (es, ts') ↔
      Node.toExprs fs ns = .ok es ∧ u :: us = ts' := by
  induction h generalizing bound es ts' with
  | @single ts n hn =>
    obtain ⟨bound, rfl⟩ := Nat.exists_eq_add_one.2 (Nat.zero_lt_of_lt hb)
    have hread := hn u us (closes_of_kind hu (by decide))
    rw [argumentsWithin, bind_eq_ok_iff_of_eq_ok_iff hread, Node.toExprs_cons_eq_ok_iff]
    have hstop : decide (u.kind = .comma) = false := by simp [hu]
    simp only [bind_check, hstop, Bool.false_eq_true, if_false, pure_eq_ok]
    constructor
    · rintro ⟨e, he, rfl, rfl⟩
      exact ⟨⟨e, [], he, rfl, rfl⟩, rfl⟩
    · rintro ⟨⟨e, es', he, hes', rfl⟩, rfl⟩
      cases hes'
      exact ⟨e, he, rfl, rfl⟩
  | @cons ts n t vs ns hn ht _ ih =>
    obtain ⟨bound, rfl⟩ := Nat.exists_eq_add_one.2 (Nat.zero_lt_of_lt hb)
    simp only [List.length_append, List.length_cons] at hb
    have hcomma : t.unlabelled = t := Token.unlabelled_of_kind_ne (by simp [ht])
    have hread := hn t (vs.map Token.unlabelled ++ u :: us) (closes_of_kind ht (by decide))
    rw [List.map_append, List.map_cons, hcomma, List.append_assoc, List.cons_append,
      argumentsWithin, bind_eq_ok_iff_of_eq_ok_iff hread, Node.toExprs_cons_eq_ok_iff]
    have hgoes : decide (t.kind = .comma) = true := decide_eq_true ht
    have hrest : vs.map Token.unlabelled ++ u :: us ≠ [] := by simp
    have htail := ih (show vs.length < bound by omega)
    simp only [bind_check, hgoes, if_true, bind_advance hrest, bind_eq_ok_iff_of_eq_ok_iff htail,
      pure_eq_ok]
    constructor
    · rintro ⟨e, he, es', hes', rfl, rfl⟩
      exact ⟨⟨e, es', he, hes', rfl⟩, rfl⟩
    · rintro ⟨⟨e, es', he, hes', rfl⟩, rfl⟩
      exact ⟨e, he, es', hes', rfl, rfl⟩

/-- A call is read as its arguments are, and then checked. -/
theorem yields_call (hk : t.kind = .word)
    (h : Parenthesized (fun us n => Argument us n ∧ YieldsArgument fs inner us n) ts ns) :
    Yields (primary fs inner) (t :: ts.map Token.unlabelled) ((Node.call t.text ns).toExpr fs) := by
  intro u us hu e ts'
  simp only [List.cons_append, primary, bind_peek, hk]
  rw [bind_advance (by simp), Node.toExpr_call_eq_ok_iff]
  cases h with
  | @empty o c ho hc =>
    have hopen : o.unlabelled = o := Token.unlabelled_of_kind_ne (by simp [ho])
    have hclose : c.unlabelled = c := Token.unlabelled_of_kind_ne (by simp [hc])
    simp only [List.map_cons, List.map_nil, List.cons_append, List.nil_append, hopen, hclose]
    rw [bind_check, if_pos (decide_eq_true ho), call_eq]
    refine (bind_expect_eq_ok (by simp)).trans ((and_iff_right ho).trans ?_)
    rw [bind_check, if_pos (decide_eq_true hc), closeCall_eq_ok_iff hc]
    constructor
    · rintro ⟨hcheck, rfl, rfl⟩
      exact ⟨⟨[], rfl, hcheck, rfl⟩, rfl⟩
    · rintro ⟨⟨es, hes, hcheck, rfl⟩, rfl⟩
      cases hes
      exact ⟨hcheck, rfl, rfl⟩
  | @filled o ts _ c ho hts hc =>
    have hopen : o.unlabelled = o := Token.unlabelled_of_kind_ne (by simp [ho])
    have hclose : c.unlabelled = c := Token.unlabelled_of_kind_ne (by simp [hc])
    -- What stands behind the parenthesis does not close it.
    obtain ⟨v, vs, rfl, hv⟩ := Separated.opens (fun _ _ h => Argument.opens h.1) hts
    have hv' : v.unlabelled.kind ≠ .rightParen := Token.kind_unlabelled_ne hv (by decide)
    have hlen : (v :: vs).length < ((v :: vs).map Token.unlabelled ++ c :: u :: us).length := by
      simp
    have hread := yields_arguments (hts.mono fun _ _ _ h => h.2) hlen hc (u :: us)
    simp only [List.map_append, List.map_cons, List.map_nil, List.cons_append, List.append_assoc,
      List.nil_append, hopen, hclose] at hread ⊢
    rw [bind_check, if_pos (decide_eq_true ho), call_eq]
    refine (bind_expect_eq_ok (by simp)).trans ((and_iff_right ho).trans ?_)
    rw [bind_check, if_neg (by simpa using hv'), bind_remaining, bind_eq_ok_iff_of_eq_ok_iff hread]
    simp only [closeCall_eq_ok_iff hc, ← and_assoc, exists_and_right]

/-! ### Arguments -/

/-- **A program makes of an argument what a request does.** -/
theorem yields_argument (h : Argument ts n) (hts : ∀ t ∈ ts, t.kind = .number →
    Decimal.Numeral t.text.toList) (hn : n.Portable) {bound : Nat} (hb : ts.length ≤ bound) :
    YieldsArgument fs (expressionWithin fs bound) ts n := by
  induction h using Argument.induct generalizing bound with
  | @field t hk =>
    obtain ⟨bound, rfl⟩ := Nat.exists_eq_add_one.2 hb
    have hplain : t.unlabelled = t := Token.unlabelled_of_kind_ne (by simp [hk])
    obtain ⟨hname⟩ := hn
    simp only [List.mem_cons, List.not_mem_nil, or_false, not_or] at hname
    have hvalue : wordValue t.text = .field t.text := by simp [wordValue, hname]
    have hread : Yields (primary fs (expressionWithin fs bound)) [t] (.ok (wordValue t.text)) :=
      yields_word hk
    rw [hvalue] at hread
    rw [YieldsArgument, List.map_singleton, hplain, Node.toExpr]
    exact (hread.sign (by simp [hk])).ladder (by simp [spells, hname])
  | @number t hk =>
    obtain ⟨bound, rfl⟩ := Nat.exists_eq_add_one.2 hb
    have hplain : t.unlabelled = t := Token.unlabelled_of_kind_ne (by simp [hk])
    rw [YieldsArgument, List.map_singleton, hplain, Node.toExpr]
    exact ((yields_number hk).sign (by simp [hk])).ladder
      (spells_eq_false_of_kind (by simp [hk]) _)
  | @text t hk =>
    obtain ⟨bound, rfl⟩ := Nat.exists_eq_add_one.2 hb
    have hplain : t.unlabelled = t := Token.unlabelled_of_kind_ne (by simp [hk])
    rw [YieldsArgument, List.map_singleton, hplain, Node.toExpr]
    exact ((yields_text hk).sign (by simp [hk])).ladder
      (spells_eq_false_of_kind (by simp [hk]) _)
  | @negative m t hm hk =>
    obtain ⟨bound, rfl⟩ := Nat.exists_eq_add_one.2 (Nat.zero_lt_of_lt hb)
    have hsign : m.unlabelled = m := Token.unlabelled_of_kind_ne (by simp [hm])
    have hplain : t.unlabelled = t := Token.unlabelled_of_kind_ne (by simp [hk])
    cases hn with
    | number hnumber =>
      rw [YieldsArgument, List.map_cons, List.map_singleton, hsign, hplain, Node.toExpr]
      exact (yields_minus hm hk (hts t (by simp) hk) hnumber).ladder
        (spells_eq_false_of_kind (by simp [hm]) _)
  | @call t us arguments hk _ ih =>
    obtain ⟨bound, rfl⟩ := Nat.exists_eq_add_one.2 (Nat.zero_lt_of_lt hb)
    have hword := Token.kind_unlabelled_of_name hk
    cases hn with
    | call hname harguments =>
      have hinner : Parenthesized (fun vs n => Argument vs n ∧
          YieldsArgument fs (expressionWithin fs bound) vs n) us arguments := by
        refine ih.mono_of_mem fun vs n hsub hlen hmem hvs => ?_
        obtain ⟨harg, hyields⟩ := hvs
        refine ⟨harg, ?_⟩
        simp only [List.length_cons] at hb
        exact hyields (fun t ht => hts t (.tail _ (hsub.subset ht))) (harguments n hmem) (by omega)
      have hread := yields_call hword hinner
      rw [Token.text_unlabelled] at hread
      rw [YieldsArgument, List.map_cons]
      exact (hread.sign (by simp [hword])).ladder (by simp [spells, hname])

theorem yields_expression (h : Argument ts n) (hts : ∀ t ∈ ts, t.kind = .number →
    Decimal.Numeral t.text.toList) (hn : n.Portable) :
    YieldsArgument fs (expression fs) ts n := by
  intro u us hu
  rw [expression, bind_remaining]
  exact yields_argument h hts hn (by simp) u us hu

theorem instruction_eq_ok_iff {i : Instruction} {ts' : List Token} (ht : t.kind ≠ .question)
    (hu : u.kind ≠ .assign) :
    Compile.instruction fs (t :: u :: us) = .ok (i, ts') ↔
      ∃ e, Compile.expression fs (t :: u :: us) = .ok (e, ts') ∧ .assign resultName e = i := by
  simp only [Compile.instruction, bind_peek, ht, if_false]
  rw [bind_peekSecond, if_neg (by simp [hu]), bind_eq_ok]
  simp only [pure_eq_ok]
  constructor
  · rintro ⟨e, _, he, rfl, rfl⟩
    exact ⟨e, he, rfl⟩
  · rintro ⟨e, he, rfl⟩
    exact ⟨e, _, he, rfl, rfl⟩

/-- Up to the end of the input, an argument is a program of one bare expression, if a request makes
an expression of it. -/
theorem program_of_argument (h : Argument ts n) (hts : ∀ t ∈ ts, t.kind = .number →
    Decimal.Numeral t.text.toList) (hn : n.Portable) (hu : u.kind = .endOfInput) {p : Program}
    {ts' : List Token} :
    Compile.program fs (ts.map Token.unlabelled ++ [u]) = .ok (p, ts') ↔
      ∃ e, n.toExpr fs = .ok e ∧ ⟨[.assign resultName e], none⟩ = p ∧ [u] = ts' := by
  have hyields : YieldsArgument fs (expression fs) ts n := yields_expression h hts hn
  have hread := hyields u [] (closes_of_kind hu (by decide))
  obtain ⟨t, v, us, heq, ht, hv⟩ := h.exists_head hu
  rw [heq] at hread ⊢
  simp only [List.mem_cons, List.not_mem_nil, or_false, not_or] at ht
  rw [Compile.program, bind_remaining, List.length_cons,
    bind_eq_ok, instructionsWithin_cons (by simp [ht])]
  constructor
  · rintro ⟨is, ts'', his, hrest⟩
    obtain ⟨i, ts₁, hi, hafter⟩ := bind_eq_ok.1 his
    obtain ⟨e, he, rfl⟩ := (instruction_eq_ok_iff ht.1 hv).1 hi
    obtain ⟨hexpr, rfl⟩ := (hread e ts₁).1 he
    rw [afterInstruction_finish hu] at hafter
    cases hafter
    cases hrest
    exact ⟨e, hexpr, rfl, rfl⟩
  · rintro ⟨e, he, rfl, rfl⟩
    have hinstruction := (instruction_eq_ok_iff ht.1 hv).2 ⟨e, (hread e _).2 ⟨he, rfl⟩, rfl⟩
    refine ⟨[.assign resultName e], [u], ?_, rfl⟩
    rw [bind_of_ok hinstruction, afterInstruction_finish hu]

end Compile

end RowSieve

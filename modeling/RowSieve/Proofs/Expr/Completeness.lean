import RowSieve.Proofs.Expr.Soundness

/-!
# Grammatical programs are read

`Compile.Complete` says that a reader takes a phrase where one stands, all of it, provided that the
token after it does not go on with the phrase.  Each level of operators adds its own operators to
those that may not come next.
-/

namespace RowSieve

open Phrase

namespace Compile

variable {fs : Functions} {ts us : List Token} {t : Token} {operand inner : Compile Expr}
  {D E : Phrase Expr} {operator? : Token → Option Operator} {O : Token → Operator → Prop}
  {Stop : Token → Prop}

/-- A reader takes each phrase that a token follows for which `Stop` holds. -/
def Complete {α : Type} (p : Compile α) (D : Phrase α) (Stop : Token → Prop) : Prop :=
  ∀ ⦃us a t ts⦄, D us a → Stop t → p (us ++ t :: ts) = .ok (a, t :: ts)

theorem Complete.of_stop {α : Type} {p : Compile α} {D : Phrase α} {Stop' : Token → Prop}
    (h : Complete p D Stop) (hstop : ∀ t, Stop' t → Stop t) : Complete p D Stop' :=
  fun _ _ _ _ ha ht => h ha (hstop _ ht)

/-! ### Levels of operators -/

/-- In a chain that goes on, the operands so far are on the left side already. -/
theorem Complete.exists_chainFrom (h : Complete operand D Stop) (hO : Finds operator? O)
    (hop : ∀ t o, O t o → Stop t) {e : Expr} (he : LeftGrouped O D us e) (ht : Stop t)
    (ts : List Token) :
    ∃ bound, ts.length < bound ∧
      Compile.leftChain operator? operand (us ++ t :: ts) =
        chainFrom operator? operand bound e (t :: ts) := by
  induction he generalizing t ts with
  | operand he =>
    refine ⟨(t :: ts).length, by simp, ?_⟩
    rw [Compile.leftChain, bind_of_ok (h he ht), bind_remaining]
  | @binary us left u o vs right _ ho hright ih =>
    -- The left side is read first; what it leaves of the bound is more than the tokens behind it.
    obtain ⟨bound, hb, heq⟩ := ih (hop u o ho) (vs ++ t :: ts)
    simp only [List.length_append, List.length_cons] at hb
    cases bound with
    | zero => omega
    | succ bound =>
      refine ⟨bound, by omega, ?_⟩
      have hright : operand (vs ++ t :: ts) = .ok (right, t :: ts) := h hright ht
      have hfound : operator? u = some o := (hO u o).2 ho
      simp only [List.append_assoc, List.cons_append, heq, chainFrom, bind_peek, hfound]
      rw [bind_advance (by simp), bind_of_ok hright]

theorem Complete.leftChain (h : Complete operand D Stop) (hO : Finds operator? O)
    (hop : ∀ t o, O t o → Stop t) :
    Complete (Compile.leftChain operator? operand) (LeftGrouped O D)
      fun t => Stop t ∧ operator? t = none := by
  intro us e t ts he ⟨ht, hnone⟩
  obtain ⟨bound, hb, heq⟩ := h.exists_chainFrom hO hop he ht ts
  cases bound with
  | zero => omega
  | succ bound => simp [heq, chainFrom, hnone]

theorem Prefixing.complete {loop : Nat → Compile Expr} {P : Phrase Expr} {test : Token → Bool}
    {build : Expr → Expr} (hp : Prefixing loop operand P D test build) (h : Complete operand D Stop)
    {e : Expr} {bound : Nat} (he : P us e) (ht : Stop t) (hb : us.length ≤ bound) :
    loop bound (us ++ t :: ts) = .ok (e, t :: ts) := by
  induction bound generalizing us e with
  | zero =>
    obtain ⟨u, us, rfl, -⟩ := (hp.phrase _ _).1 he
    simp at hb
  | succ bound ih =>
    obtain ⟨u, us, rfl, ⟨hu, he⟩ | ⟨hu, e', hinner, rfl⟩⟩ := (hp.phrase _ _).1 he
    · have hoperand : operand (u :: (us ++ t :: ts)) = .ok (e, t :: ts) := h he ht
      rw [List.cons_append, hp.turn, bind_peek, if_neg (by simp [hu]), hoperand]
    · have hrest : loop bound (us ++ t :: ts) = .ok (e', t :: ts) := ih hinner (by simpa using hb)
      rw [List.cons_append, hp.turn, bind_peek, if_pos hu, bind_advance (by simp),
        bind_of_ok hrest]
      rfl

theorem Complete.negation (h : Complete operand D Stop) :
    Complete (Compile.negation operand) (Negated D) Stop := by
  intro us e t ts he ht
  rw [Compile.negation, bind_remaining]
  exact (prefixing_negation operand D).complete h he ht (by simp)

theorem Complete.sign (h : Complete operand D Stop) :
    Complete (Compile.sign operand) (Signed D) Stop := by
  intro us e t ts he ht
  rw [Compile.sign, bind_remaining]
  exact (prefixing_sign operand D).complete h he ht (by simp)

theorem Complete.comparison (h : Complete operand D Stop)
    (hop : ∀ t o, ComparisonOperator t o → Stop t) :
    Complete (Compile.comparison operand) (Compared D)
      fun t => Stop t ∧ Operator.comparison? t.kind = none := by
  intro us e t ts he ⟨ht, hnone⟩
  cases he with
  | operand he =>
    rw [Compile.comparison, bind_of_ok (h he ht)]
    simp [hnone]
  | @binary us left u o vs right hleft ho hright =>
    have hleft : operand (us ++ u :: (vs ++ t :: ts)) = .ok (left, u :: (vs ++ t :: ts)) :=
      h hleft (hop u o ho)
    simp only [List.append_assoc, List.cons_append]
    rw [Compile.comparison, bind_of_ok hleft, bind_peek]
    simp only [comparison?_eq_some_iff.2 ho]
    rw [bind_advance (by simp), bind_of_ok (h hright ht)]
    rfl

/-! ### Operands -/

theorem Complete.arguments (h : Complete inner E Stop)
    (hcomma : ∀ t : Token, t.kind = .comma → Stop t) {es : List Expr} {bound : Nat}
    (hes : Separated .comma E us es) (ht : Stop t) (hk : t.kind ≠ .comma) (hb : us.length < bound) :
    argumentsWithin inner bound (us ++ t :: ts) = .ok (es, t :: ts) := by
  induction hes generalizing bound with
  | single he =>
    cases bound with
    | zero => omega
    | succ bound =>
      rw [argumentsWithin, bind_of_ok (h he ht)]
      simp [hk]
  | @cons us e u vs es he hu _ ih =>
    simp only [List.length_append, List.length_cons] at hb
    cases bound with
    | zero => omega
    | succ bound =>
      have he : inner (us ++ u :: (vs ++ t :: ts)) = .ok (e, u :: (vs ++ t :: ts)) :=
        h he (hcomma u hu)
      simp only [List.append_assoc, List.cons_append]
      rw [argumentsWithin, bind_of_ok he, bind_check, if_pos (decide_eq_true hu),
        bind_advance (by simp), bind_of_ok (ih (by omega))]
      rfl

theorem closeCall_complete {name : String} {arguments : List Expr} {f : Function}
    (ht : t.kind = .rightParen) (hne : ts ≠ []) (hf : fs.get? name = some f)
    (hcount : f.accepts arguments.length) :
    closeCall fs name arguments (t :: ts) = .ok (.call name arguments, ts) := by
  refine (bind_expect_eq_ok hne).2 ⟨ht, ?_⟩
  have hcheck : checkCall fs name arguments.length = .ok () := checkCall_eq_ok_iff.2 ⟨f, hf, hcount⟩
  exact bind_of_ok (lift_eq_ok.2 ⟨hcheck, rfl⟩) _

/-- What comes after an expression in a program. -/
def Closes (t : Token) : Prop :=
  t.kind ∈ [Kind.rightParen, .comma, .endOfStatement, .endOfInput]

theorem closes_of_kind {kind : Kind} (h : t.kind = kind)
    (hkind : kind ∈ [Kind.rightParen, .comma, .endOfStatement, .endOfInput]) : Closes t := by
  rw [Closes, h]
  exact hkind

theorem Complete.call (h : Complete inner E Closes) (hE : Opens E) {name : String} {es : List Expr}
    {f : Function} (hes : Parenthesized E us es) (hf : fs.get? name = some f)
    (hcount : f.accepts es.length) :
    Compile.call fs inner name (us ++ t :: ts) = .ok (.call name es, t :: ts) := by
  rw [call_eq]
  cases hes with
  | empty ho hc =>
    simp only [List.cons_append, List.nil_append]
    refine (bind_expect_eq_ok (by simp)).2 ⟨ho, ?_⟩
    rw [bind_check, if_pos (decide_eq_true hc)]
    exact closeCall_complete hc (by simp) hf hcount
  | @filled o us es c ho hes hc =>
    have harguments : argumentsWithin inner (us ++ c :: t :: ts).length (us ++ c :: t :: ts) =
        .ok (es, c :: t :: ts) :=
      h.arguments (fun t ht => closes_of_kind ht (by decide)) hes (closes_of_kind hc (by decide))
        (by simp [hc]) (by simp)
    obtain ⟨u, vs, rfl, hu⟩ := Separated.opens hE hes
    simp only [List.cons_append, List.append_assoc, List.nil_append] at harguments ⊢
    refine (bind_expect_eq_ok (by simp)).2 ⟨ho, ?_⟩
    rw [bind_check, if_neg (by simpa using hu), bind_remaining, bind_of_ok harguments]
    exact closeCall_complete hc (by simp) hf hcount

/-- A word that no parenthesis follows is not called. -/
theorem primary_of_word {u : Token} (hk : t.kind = .word) (hu : u.kind ≠ .leftParen) :
    Compile.primary fs inner (t :: u :: ts) = .ok (wordValue t.text, u :: ts) := by
  simp only [Compile.primary, bind_peek, hk]
  rw [bind_advance (by simp), bind_check, if_neg (by simpa using hu)]
  rfl

theorem primary_of_number {e : Expr} (hk : t.kind = .number) (hne : ts ≠ [])
    (he : numberOf t.text = .ok e) : Compile.primary fs inner (t :: ts) = .ok (e, ts) := by
  simp only [Compile.primary, bind_peek, hk]
  rw [bind_advance hne]
  exact lift_eq_ok.2 ⟨he, rfl⟩

theorem Complete.primary (h : Complete inner E Closes) (hE : Opens E) :
    Complete (Compile.primary fs inner) (Primary fs E) fun t => t.kind ≠ .leftParen := by
  intro us e t ts he ht
  cases he with
  | integer hk hn => exact primary_of_number hk (by simp) (by simp [numberOf, hn])
  | float hk hn hx => exact primary_of_number hk (by simp) (by simp [numberOf, hn, hx])
  | text hk =>
    simp only [Compile.primary, List.cons_append, List.nil_append, bind_peek, hk]
    rw [bind_advance (by simp)]
    rfl
  | @true w hk hw =>
    have hvalue : wordValue w.text = .boolean true := by simp [wordValue, hw]
    exact hvalue ▸ primary_of_word hk ht
  | @false w hk hw =>
    have hvalue : wordValue w.text = .boolean false := by simp [wordValue, hw]
    exact hvalue ▸ primary_of_word hk ht
  | @null w hk hw =>
    have hvalue : wordValue w.text = .null := by simp [wordValue, hw]
    exact hvalue ▸ primary_of_word hk ht
  | @field w hk hw =>
    have hvalue : wordValue w.text = .field w.text := by
      simp only [List.mem_cons, List.not_mem_nil, or_false, not_or] at hw
      simp [wordValue, hw]
    exact hvalue ▸ primary_of_word hk ht
  | @call w f us es hk hf hes hleast hmost =>
    have hcall : Compile.call fs inner w.text (us ++ t :: ts) = .ok (.call w.text es, t :: ts) :=
      h.call hE hes hf (Function.accepts_iff.2 ⟨hleast, hmost⟩)
    obtain ⟨o, vs, rfl, ho⟩ := hes.exists_head
    simp only [Compile.primary, List.cons_append, bind_peek, hk] at hcall ⊢
    rw [bind_advance (by simp), bind_check, if_pos (decide_eq_true ho)]
    exact hcall
  | @group o us e c ho he hc =>
    have he : inner (us ++ c :: t :: ts) = .ok (e, c :: t :: ts) :=
      h he (closes_of_kind hc (by decide))
    simp only [Compile.primary, List.cons_append, List.append_assoc, List.nil_append, bind_peek, ho]
    rw [bind_advance (by simp), bind_of_ok he]
    exact (bind_expect_eq_ok (by simp)).2 ⟨hc, rfl⟩

/-! ### Expressions -/

/-- The token goes on with no product. -/
def StopsProduct (t : Token) : Prop := t.kind ≠ .leftParen ∧ productOperator? t = none

/-- The token goes on with no comparison, nor with part of one. -/
def StopsComparison (t : Token) : Prop :=
  (StopsProduct t ∧ sumOperator? t = none) ∧ Operator.comparison? t.kind = none

theorem stopsProduct_of_sumOperator {o : Operator} (h : SumOperator t o) : StopsProduct t := by
  have hk := h.kind_mem
  simp only [List.mem_cons, List.not_mem_nil, or_false] at hk
  rcases hk with hk | hk <;> simp [StopsProduct, productOperator?, hk]

theorem stopsSum_of_comparisonOperator {o : Operator} (h : ComparisonOperator t o) :
    StopsProduct t ∧ sumOperator? t = none := by
  have hk := h.kind_mem
  simp only [List.mem_cons, List.not_mem_nil, or_false] at hk
  rcases hk with hk | hk | hk | hk | hk | hk | hk <;>
    simp [StopsProduct, productOperator?, sumOperator?, hk]

theorem stopsComparison_of_word (hk : t.kind = .word) : StopsComparison t := by
  simp [StopsComparison, StopsProduct, productOperator?, sumOperator?, Operator.comparison?, hk]

theorem stopsComparison_of_closes (ht : Closes t) : StopsComparison t := by
  simp only [Closes, List.mem_cons, List.not_mem_nil, or_false] at ht
  rcases ht with hk | hk | hk | hk <;>
    simp [StopsComparison, StopsProduct, productOperator?, sumOperator?, Operator.comparison?, hk]

theorem spells_eq_false_of_closes (ht : Closes t) (word : String) : spells t word = false := by
  simp only [Closes, List.mem_cons, List.not_mem_nil, or_false] at ht
  rcases ht with hk | hk | hk | hk <;> simp [spells, hk]

/-- A word is not both of the operators. -/
theorem andOperator?_of_orOperator {o : Operator} (h : OrOperator t o) :
    andOperator? t = none := by
  obtain ⟨⟨hk, htext⟩⟩ := h
  simp [andOperator?, spells, hk, htext]

theorem Complete.ladder (h : Complete inner E Closes) (hE : Opens E) :
    Complete (Compile.ladder fs inner) (Ladder fs E) Closes := by
  have hprimary : Complete (Compile.primary fs inner) (Primary fs E) fun t => t.kind ≠ .leftParen :=
    h.primary hE
  have hproduct := hprimary.sign.leftChain finds_product fun t o ho hk => by
    simpa [hk] using ho.kind_mem
  have hsum := hproduct.leftChain finds_sum fun t o ho => stopsProduct_of_sumOperator ho
  have hcomparison : Complete _ _ StopsComparison :=
    hsum.comparison fun t o ho => stopsSum_of_comparisonOperator ho
  have hand := hcomparison.negation.leftChain finds_and fun t o ho =>
    stopsComparison_of_word ho.kind_eq
  have hor := hand.leftChain finds_or fun t o ho =>
    ⟨stopsComparison_of_word ho.kind_eq, andOperator?_of_orOperator ho⟩
  -- What comes after an expression is no operator of any level.
  refine hor.of_stop fun t ht => ⟨⟨stopsComparison_of_closes ht, ?_⟩, ?_⟩
  · simp [andOperator?, spells_eq_false_of_closes ht]
  · simp [orOperator?, spells_eq_false_of_closes ht]

theorem expressionWithin_complete (fs : Functions) (bound : Nat) :
    Complete (Compile.expressionWithin fs bound)
      (fun us e => us.length ≤ bound ∧ Expression fs us e) Closes := by
  induction bound with
  | zero =>
    intro us e t ts he
    exact absurd (List.length_eq_zero_iff.1 (Nat.le_zero.1 he.1)) (Expression.opens.ne_nil he.2)
  | succ bound ih =>
    intro us e t ts ⟨hlen, ⟨hladder⟩⟩ ht
    -- Expressions inside are shorter, so the smaller bound is enough for them.
    refine ih.ladder (fun _ _ h => Expression.opens h.2) ?_ ht
    exact Ladder.mono hladder fun _ _ hlt he => ⟨by omega, he⟩

theorem Complete.expression (fs : Functions) :
    Complete (Compile.expression fs) (Expression fs) Closes := by
  intro us e t ts he ht
  rw [Compile.expression, bind_remaining]
  exact expressionWithin_complete fs _ ⟨by simp, he⟩ ht

/-! ### Instructions -/

theorem instruction_of_filter {o c : Token} {e : Expr} (hq : t.kind = .question)
    (ho : o.kind = .leftParen) (he : Compile.expression fs us = .ok (e, c :: ts))
    (hc : c.kind = .rightParen) (hus : us ≠ []) (hts : ts ≠ []) :
    Compile.instruction fs (t :: o :: us) = .ok (.filter e, ts) := by
  simp only [Compile.instruction, bind_peek, hq, if_true]
  rw [bind_advance (by simp)]
  refine (bind_expect_eq_ok hus).2 ⟨ho, ?_⟩
  rw [bind_of_ok he]
  exact (bind_expect_eq_ok hts).2 ⟨hc, rfl⟩

theorem instruction_of_assign {a : Token} {e : Expr} (hk : t.kind = .word) (ha : a.kind = .assign)
    (he : Compile.expression fs us = .ok (e, ts)) (hus : us ≠ []) :
    Compile.instruction fs (t :: a :: us) = .ok (.assign t.text e, ts) := by
  have hq : t.kind ≠ .question := by simp [hk]
  simp only [Compile.instruction, bind_peek, hq, if_false]
  rw [bind_peekSecond, if_pos (by simp [hk, ha]), bind_advance (by simp), bind_advance hus,
    bind_of_ok he]
  rfl

theorem instruction_of_expression {u : Token} {e : Expr} (hq : t.kind ≠ .question)
    (ha : u.kind ≠ .assign) (he : Compile.expression fs (t :: u :: us) = .ok (e, ts)) :
    Compile.instruction fs (t :: u :: us) = .ok (.assign resultName e, ts) := by
  simp only [Compile.instruction, bind_peek, hq, if_false]
  rw [bind_peekSecond, if_neg (by simp [ha]), bind_of_ok he]
  rfl

theorem Complete.instruction (fs : Functions) :
    Complete (Compile.instruction fs) (Instructing fs)
      fun t => t.kind ∈ [Kind.endOfStatement, .endOfInput] := by
  intro us i t ts hi ht
  simp only [List.mem_cons, List.not_mem_nil, or_false] at ht
  have hcloses : Closes t := by
    rcases ht with ht | ht <;> exact closes_of_kind ht (by decide)
  cases hi with
  | @filter q o us e c hq ho he hc =>
    have he : Compile.expression fs (us ++ c :: t :: ts) = .ok (e, c :: t :: ts) :=
      Complete.expression fs he (closes_of_kind hc (by decide))
    simpa using instruction_of_filter hq ho he hc (by simp) (by simp)
  | @assign w a us e hk ha he =>
    exact instruction_of_assign hk ha (Complete.expression fs he hcloses) (by simp)
  | @bare us e he =>
    have hinside := he.inside
    have hread : Compile.expression fs (us ++ t :: ts) = .ok (e, t :: ts) :=
      Complete.expression fs he hcloses
    obtain ⟨u, vs, rfl, -⟩ := Expression.opens he
    have hq : u.kind ≠ .question := fun hq => hinside u (.head _) (by simp [hq])
    -- An assignment has its mark second, and no expression has one inside.
    cases vs with
    | nil =>
      refine instruction_of_expression hq ?_ hread
      rcases ht with ht | ht <;> simp [ht]
    | cons v vs =>
      have ha : v.kind ≠ .assign := fun ha => hinside v (.tail _ (.head _)) (by simp [ha])
      exact instruction_of_expression hq ha hread

end Compile

end RowSieve

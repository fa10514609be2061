import RowSieve.Proofs.Expr.Acceptance

/-!
# The bounds of readers

The readers that call themselves are defined with a bound on how often they do so.  A reader that
succeeds takes at least one token and leaves the end of the input where it is (`Compile.Advances`),
so that it goes on with fewer tokens, and a bound is never used up unless it is less than the number
of tokens.  With any other bound a reader does the same (`Compile.SameUpTo`).

A loop is given by what it does at one turn, which is made from what it does after that turn:
`Compile.chainTurn` and the like.
-/

namespace RowSieve

open Phrase

namespace Compile

variable {α β : Type} {fs : Functions} {n bound bound' : Nat} {t : Token} {ts us : List Token}
  {kind : Kind} {p q : Compile α}

/-! ### Taking tokens -/

/-- A reader that succeeds takes at least one token, but never the end of the input. -/
def Advances (p : Compile α) : Prop :=
  ∀ ⦃ts a us⦄, Terminated ts → p ts = .ok (a, us) →
    Terminated us ∧ us <:+ ts ∧ us.length < ts.length

theorem Sound.advances {D : Phrase α} (h : Sound p D) (hD : ∀ us a, D us a → us ≠ []) :
    Advances p := by
  intro ts a us hts hp
  obtain ⟨hus, taken, rfl, htaken⟩ := h hts hp
  have hlen := List.length_pos_iff.2 (hD _ _ htaken)
  refine ⟨hus, List.suffix_append _ _, ?_⟩
  rw [List.length_append]
  omega

theorem Advances.bind_pure (h : Advances p) (f : α → β) : Advances (do return f (← p)) := by
  intro ts b us hts hp
  obtain ⟨a, us', ha, hrest⟩ := bind_eq_ok.1 hp
  obtain ⟨rfl, rfl⟩ := pure_eq_ok.1 hrest
  exact h hts ha

theorem advances_expect {expected : String} (hkind : kind ≠ .endOfInput) :
    Advances (expect kind expected) := by
  intro ts a us hts hp
  obtain ⟨t, ts, rfl⟩ := hts.exists_cons
  have hbind : (expect kind expected >>= pure) (t :: ts) = .ok (a, us) := by rwa [bind_pure]
  obtain ⟨-, htail, hrest⟩ := hts.bind_expect hbind hkind
  obtain ⟨-, rfl⟩ := pure_eq_ok.1 hrest
  exact ⟨htail, List.suffix_cons _ _, by simp⟩

/-! ### Bounds -/

/-- Two readers do the same where no more than `n` tokens are left. -/
def SameUpTo (n : Nat) (p q : Compile α) : Prop :=
  ∀ ⦃ts⦄, Terminated ts → ts.length ≤ n → p ts = q ts

theorem sameUpTo_refl (n : Nat) (p : Compile α) : SameUpTo n p p := fun _ _ _ => rfl

theorem bind_eq_bind {f g : α → Compile β} (h : p ts = q ts)
    (hfg : ∀ a us, p ts = .ok (a, us) → f a us = g a us) : (p >>= f) ts = (q >>= g) ts := by
  change (StateT.bind p f ts : Except CompileError (β × List Token)) = StateT.bind q g ts
  unfold StateT.bind
  rw [← h]
  cases hp : p ts with
  | error e => rfl
  | ok result => exact hfg _ _ hp

/-- Induction on bounds that are no less than the number of tokens. -/
theorem Terminated.bounds_induct {P : Nat → Nat → List Token → Prop}
    (turn : ∀ b b' t ts, Terminated (t :: ts) →
      (∀ us, Terminated us → us.length ≤ ts.length → P b b' us) → P (b + 1) (b' + 1) (t :: ts))
    (hts : Terminated ts) (hb : ts.length ≤ bound) (hb' : ts.length ≤ bound') :
    P bound bound' ts := by
  induction bound generalizing bound' ts with
  | zero => exact absurd (List.length_eq_zero_iff.1 (Nat.le_zero.1 hb)) hts.ne_nil
  | succ bound ih =>
    obtain ⟨t, ts, rfl⟩ := hts.exists_cons
    rw [List.length_cons] at hb hb'
    obtain ⟨bound', rfl⟩ : ∃ k, bound' = k + 1 := Nat.exists_eq_add_one.2 (by omega)
    exact turn _ _ t ts hts fun us hus hle => ih hus (by omega) (by omega)

/-- After a reader that takes tokens, less is left to agree on. -/
theorem Advances.bind_eq_bind {f g : α → Compile β} (hp : Advances p) (hts : Terminated ts)
    (h : p ts = q ts) (hfg : ∀ a us, Terminated us → us.length < ts.length → f a us = g a us) :
    (p >>= f) ts = (q >>= g) ts :=
  Compile.bind_eq_bind h fun a us hus =>
    have ⟨hterm, _, hlt⟩ := hp hts hus
    hfg a us hterm hlt

/-! ### Turns -/

section

variable {operand operand' : Compile Expr} {operator? : Token → Option Operator}

/-- One turn of a chain of operands: an operator and an operand, if there is an operator. -/
def chainTurn (operator? : Token → Option Operator) (operand : Compile Expr)
    (rest : Expr → Compile Expr) (left : Expr) : Compile Expr := do
  match operator? (← peek) with
  | none => return left
  | some operator =>
    advance
    let right ← operand
    rest (.binary operator left right)

theorem chainTurn_eq {rest rest' : Expr → Compile Expr} (left : Expr)
    (hop : ∀ t o, operator? t = some o → t.kind ≠ .endOfInput) (hp : Advances operand)
    (h : SameUpTo n operand operand') (hts : Terminated (t :: ts)) (hn : ts.length ≤ n)
    (hrest : ∀ us, Terminated us → us.length ≤ ts.length → ∀ left, rest left us = rest' left us) :
    chainTurn operator? operand rest left (t :: ts) =
      chainTurn operator? operand' rest' left (t :: ts) := by
  rw [chainTurn, chainTurn, bind_peek, bind_peek]
  cases ho : operator? t with
  | none => rfl
  | some o =>
    have htail := hts.tail (hop t o ho)
    simp only [bind_advance htail.ne_nil]
    exact hp.bind_eq_bind htail (h htail hn) fun right us hus hlt => hrest us hus hlt.le _

theorem chainFrom_eq (hop : ∀ t o, operator? t = some o → t.kind ≠ .endOfInput)
    (hp : Advances operand) (h : SameUpTo n operand operand') (hts : Terminated ts)
    (hn : ts.length ≤ n) (hb : ts.length ≤ bound) (hb' : ts.length ≤ bound') (left : Expr) :
    chainFrom operator? operand bound left ts = chainFrom operator? operand' bound' left ts := by
  revert left hn
  refine hts.bounds_induct (P := fun b b' ts => ts.length ≤ n → ∀ left,
    chainFrom operator? operand b left ts = chainFrom operator? operand' b' left ts) ?_ hb hb'
  intro b b' t ts hts ih hn left
  rw [List.length_cons] at hn
  exact chainTurn_eq left hop hp h hts (by omega) fun us hus hle => ih us hus hle (by omega)

theorem SameUpTo.leftChain (hop : ∀ t o, operator? t = some o → t.kind ≠ .endOfInput)
    (hp : Advances operand) (h : SameUpTo n operand operand') :
    SameUpTo n (leftChain operator? operand) (leftChain operator? operand') := by
  intro ts hts hn
  refine hp.bind_eq_bind hts (h hts hn) fun first us hus hlt => ?_
  rw [bind_remaining, bind_remaining]
  exact chainFrom_eq hop hp h hus (by omega) (Nat.le_refl _) (Nat.le_refl _) first

/-- One turn of a reader of what stands in front of an operand. -/
def prefixTurn (test : Token → Bool) (build : Expr → Expr) (operand rest : Compile Expr) :
    Compile Expr := do
  if test (← peek) then
    advance
    return build (← rest)
  else operand

variable {test : Token → Bool} {build : Expr → Expr}

theorem prefixTurn_eq {rest rest' : Compile Expr} (htest : ∀ t, test t → t.kind ≠ .endOfInput)
    (h : SameUpTo n operand operand') (hts : Terminated (t :: ts)) (hn : (t :: ts).length ≤ n)
    (hrest : ∀ us, Terminated us → us.length ≤ ts.length → rest us = rest' us) :
    prefixTurn test build operand rest (t :: ts) =
      prefixTurn test build operand' rest' (t :: ts) := by
  rw [prefixTurn, prefixTurn, bind_peek, bind_peek]
  cases ht : test t with
  | false => exact h hts hn
  | true =>
    have htail := hts.tail (htest t ht)
    simp only [if_true, bind_advance htail.ne_nil]
    exact bind_eq_bind (hrest _ htail (Nat.le_refl _)) fun _ _ _ => rfl

theorem Prefixing.eq {loop loop' : Nat → Compile Expr} {P P' D D' : Phrase Expr}
    (hp : Prefixing loop operand P D test build) (hq : Prefixing loop' operand' P' D' test build)
    (h : SameUpTo n operand operand') (hts : Terminated ts) (hn : ts.length ≤ n)
    (hb : ts.length ≤ bound) (hb' : ts.length ≤ bound') : loop bound ts = loop' bound' ts := by
  revert hn
  refine hts.bounds_induct (P := fun b b' ts => ts.length ≤ n → loop b ts = loop' b' ts) ?_ hb hb'
  intro b b' t ts hts ih hn
  rw [hp.turn, hq.turn]
  rw [List.length_cons] at hn
  exact prefixTurn_eq hp.kind h hts hn fun us hus hle => ih us hus hle (by omega)

theorem SameUpTo.negation (h : SameUpTo n operand operand') :
    SameUpTo n (negation operand) (negation operand') := fun _ hts hn =>
  (prefixing_negation operand fun _ _ => True).eq (prefixing_negation operand' fun _ _ => True) h
    hts hn (Nat.le_refl _) (Nat.le_refl _)

theorem SameUpTo.sign (h : SameUpTo n operand operand') :
    SameUpTo n (sign operand) (sign operand') := fun _ hts hn =>
  (prefixing_sign operand fun _ _ => True).eq (prefixing_sign operand' fun _ _ => True) h
    hts hn (Nat.le_refl _) (Nat.le_refl _)

theorem SameUpTo.comparison (hp : Advances operand) (h : SameUpTo n operand operand') :
    SameUpTo n (comparison operand) (comparison operand') := by
  intro ts hts hn
  refine hp.bind_eq_bind hts (h hts hn) fun left us hus hlt => ?_
  obtain ⟨t, us, rfl⟩ := hus.exists_cons
  rw [bind_peek, bind_peek]
  cases ho : Operator.comparison? t.kind with
  | none => rfl
  | some o =>
    have htail := hus.tail fun hk => by simp [hk, Operator.comparison?] at ho
    rw [List.length_cons] at hlt
    simp only [bind_advance htail.ne_nil]
    exact bind_eq_bind (h htail (by omega)) fun _ _ _ => rfl

end

section

variable {inner inner' : Compile Expr}

/-- One turn of a reader of arguments: an expression, and more after a comma. -/
def argumentsTurn (expression : Compile Expr) (rest : Compile (List Expr)) :
    Compile (List Expr) := do
  let first ← expression
  if (← check .comma) then
    advance
    return first :: (← rest)
  else return [first]

theorem argumentsTurn_eq {rest rest' : Compile (List Expr)} (hp : Advances inner)
    (h : SameUpTo n inner inner') (hts : Terminated ts) (hn : ts.length ≤ n)
    (hrest : ∀ us, Terminated us → us.length < ts.length → rest us = rest' us) :
    argumentsTurn inner rest ts = argumentsTurn inner' rest' ts := by
  refine hp.bind_eq_bind hts (h hts hn) fun first us hus hlt => ?_
  obtain ⟨t, us, rfl⟩ := hus.exists_cons
  rw [List.length_cons] at hlt
  rw [bind_check, bind_check]
  by_cases hk : t.kind = .comma
  · have htail := hus.tail (by rw [hk]; decide)
    simp only [hk, decide_true, if_true, bind_advance htail.ne_nil]
    exact bind_eq_bind (hrest _ htail (by omega)) fun _ _ _ => rfl
  · simp only [hk, decide_false]
    rfl

theorem argumentsWithin_eq (hp : Advances inner) (h : SameUpTo n inner inner')
    (hts : Terminated ts) (hn : ts.length ≤ n) (hb : ts.length ≤ bound) (hb' : ts.length ≤ bound') :
    argumentsWithin inner bound ts = argumentsWithin inner' bound' ts := by
  revert hn
  refine hts.bounds_induct (P := fun b b' ts => ts.length ≤ n →
    argumentsWithin inner b ts = argumentsWithin inner' b' ts) ?_ hb hb'
  intro b b' t ts hts ih hn
  refine argumentsTurn_eq hp h hts hn fun us hus hlt => ?_
  rw [List.length_cons] at hlt hn
  exact ih us hus (by omega) (by omega)

theorem SameUpTo.call (hp : Advances inner) (h : SameUpTo n inner inner') (name : String) :
    SameUpTo n (call fs inner name) (call fs inner' name) := by
  intro ts hts hn
  rw [call_eq, call_eq]
  refine (advances_expect (by decide)).bind_eq_bind hts rfl fun _ us hus hlt => ?_
  obtain ⟨t, us, rfl⟩ := hus.exists_cons
  rw [bind_check, bind_check]
  split
  · rfl
  · rw [bind_remaining, bind_remaining]
    refine bind_eq_bind (argumentsWithin_eq hp h hus ?_ (Nat.le_refl _) (Nat.le_refl _)) ?_
    · omega
    · exact fun _ _ _ => rfl

/-- What stands in parentheses is shorter than what the parentheses belong to. -/
theorem SameUpTo.primary (hp : Advances inner) (h : SameUpTo n inner inner') :
    SameUpTo (n + 1) (primary fs inner) (primary fs inner') := by
  intro ts hts hn
  obtain ⟨t, ts, rfl⟩ := hts.exists_cons
  rw [List.length_cons] at hn
  simp only [Compile.primary, bind_peek]
  generalize hk : t.kind = kind
  split
  · rfl
  · rfl
  · have htail := hts.tail (by rw [hk]; decide)
    simp only [bind_advance htail.ne_nil]
    exact bind_eq_bind (h htail (by omega)) fun _ _ _ => rfl
  · have htail := hts.tail (by rw [hk]; decide)
    simp only [bind_advance htail.ne_nil]
    obtain ⟨u, us, rfl⟩ := htail.exists_cons
    rw [bind_check, bind_check]
    split
    · exact h.call hp _ htail (by omega)
    · rfl
  · rfl

end

/-! ### Levels of operators -/

/-- The levels of operators. -/
inductive Level where
  /-- Conditions of which one must hold. -/
  | disjunction
  /-- Conditions which must all hold. -/
  | conjunction
  /-- A condition with negations in front of it. -/
  | negation
  /-- A comparison. -/
  | comparison
  /-- Sums and differences. -/
  | sum
  /-- Products, quotients and remainders. -/
  | product
  /-- A number with signs in front of it. -/
  | sign
  /-- An operand. -/
  | primary
deriving DecidableEq

/-- The reader of a level, with a reader for what stands in parentheses. -/
def Level.readWith (fs : Functions) (inner : Compile Expr) (level : Level) : Compile Expr :=
  let primary := Compile.primary fs inner
  let sign := Compile.sign primary
  let product := leftChain productOperator? sign
  let sum := leftChain sumOperator? product
  let comparison := Compile.comparison sum
  let negation := Compile.negation comparison
  let conjunction := leftChain andOperator? negation
  match level with
  | .primary => primary
  | .sign => sign
  | .product => product
  | .sum => sum
  | .comparison => comparison
  | .negation => negation
  | .conjunction => conjunction
  | .disjunction => leftChain orOperator? conjunction

/-- The reader of a level. -/
def Level.read (fs : Functions) (level : Level) : Compile Expr :=
  level.readWith fs (expression fs)

theorem kind_ne_of_productOperator? {o : Operator} (h : productOperator? t = some o) :
    t.kind ≠ .endOfInput := ((finds_product t o).1 h).kind_ne

theorem kind_ne_of_sumOperator? {o : Operator} (h : sumOperator? t = some o) :
    t.kind ≠ .endOfInput := ((finds_sum t o).1 h).kind_ne

theorem kind_ne_of_andOperator? {o : Operator} (h : andOperator? t = some o) :
    t.kind ≠ .endOfInput := ((finds_and t o).1 h).kind_ne

theorem kind_ne_of_orOperator? {o : Operator} (h : orOperator? t = some o) :
    t.kind ≠ .endOfInput := ((finds_or t o).1 h).kind_ne

section

variable {inner inner' : Compile Expr} {E : Phrase Expr}

theorem Level.advances (h : Sound inner E) (level : Level) :
    Advances (level.readWith fs inner) := by
  have hprimary : Sound (Compile.primary fs inner) (Primary fs E) := h.primary
  have hsign := hprimary.sign Primary.opens
  have hproduct := hsign.leftChain finds_product fun _ _ => ProductOperator.kind_ne
  have hsum := hproduct.leftChain finds_sum fun _ _ => SumOperator.kind_ne
  have hcomparison := hsum.comparison
  have hnegation := hcomparison.negation opens_compared
  have hand := hnegation.leftChain finds_and fun _ _ => AndOperator.kind_ne
  have hor := hand.leftChain finds_or fun _ _ => OrOperator.kind_ne
  have hopens : Opens (Negated (Compared (LeftGrouped SumOperator
    (LeftGrouped ProductOperator (Signed (Primary fs E)))))) := opens_compared.negated
  cases level with
  | primary => exact hprimary.advances fun _ _ => Primary.opens.ne_nil
  | sign => exact hsign.advances fun _ _ => Primary.opens.signed.ne_nil
  | product => exact hproduct.advances fun _ _ => Primary.opens.signed.leftGrouped.ne_nil
  | sum => exact hsum.advances fun _ _ => Primary.opens.signed.leftGrouped.leftGrouped.ne_nil
  | comparison => exact hcomparison.advances fun _ _ => opens_compared.ne_nil
  | negation => exact hnegation.advances fun _ _ => hopens.ne_nil
  | conjunction => exact hand.advances fun _ _ => hopens.leftGrouped.ne_nil
  | disjunction => exact hor.advances fun _ _ => hopens.leftGrouped.leftGrouped.ne_nil

theorem Level.same (hp : Sound inner E) (hE : Opens E) (h : SameUpTo n inner inner')
    (level : Level) : SameUpTo (n + 1) (level.readWith fs inner) (level.readWith fs inner') := by
  have hlevel (level : Level) : Advances (level.readWith fs inner) := level.advances hp
  have hprimary : SameUpTo (n + 1) (Level.primary.readWith fs inner)
    (Level.primary.readWith fs inner') := h.primary (hp.advances fun _ _ => hE.ne_nil)
  have hproduct := hprimary.sign.leftChain (fun _ _ => kind_ne_of_productOperator?) (hlevel .sign)
  have hsum := hproduct.leftChain (fun _ _ => kind_ne_of_sumOperator?) (hlevel .product)
  have hcomparison := hsum.comparison (hlevel .sum)
  have hnegation := hcomparison.negation
  have hand := hnegation.leftChain (fun _ _ => kind_ne_of_andOperator?) (hlevel .negation)
  cases level with
  | primary => exact hprimary
  | sign => exact hprimary.sign
  | product => exact hproduct
  | sum => exact hsum
  | comparison => exact hcomparison
  | negation => exact hnegation
  | conjunction => exact hand
  | disjunction =>
    exact hand.leftChain (fun _ _ => kind_ne_of_orOperator?) (hlevel .conjunction)

end

theorem expressionWithin_eq (hts : Terminated ts) (hb : ts.length ≤ bound)
    (hb' : ts.length ≤ bound') : expressionWithin fs bound ts = expressionWithin fs bound' ts := by
  refine hts.bounds_induct
    (P := fun b b' ts => expressionWithin fs b ts = expressionWithin fs b' ts) ?_ hb hb'
  intro b b' t ts hts ih
  exact Level.same (Sound.expressionWithin fs b) Expression.opens ih .disjunction hts
    (Nat.le_refl _)

end Compile

end RowSieve

import RowSieve.Expr.Compiler
import RowSieve.Proofs.Expr.Derivation

/-!
# Programs that are read are grammatical

What the basic readers of a `Compile` computation do, and what is read by the readers of expressions
and instructions.  `Compile.Sound` says that a reader takes phrases only.  Each construction of a
reader from a reader is sound if its part is (`Sound.leftChain` and the like), so the levels of
operators are put on top of each other here as they are in the grammar.

Words and signs in front of an operand are read in the same way; `Compile.Prefixing` says what both
have in common.
-/

namespace RowSieve

open Phrase

namespace Compile

/-- The end of the input comes last, and only there. -/
inductive Terminated : List Token → Prop where
  /-- The end of the input. -/
  | last {t} : t.kind = .endOfInput → Terminated [t]
  /-- Any other token, and what follows. -/
  | cons {t ts} : t.kind ≠ .endOfInput → Terminated ts → Terminated (t :: ts)

variable {α β : Type} {ts ts' us : List Token} {t : Token} {kind : Kind}

/-! ### Basic readers -/

theorem bind_eq_ok {p : Compile α} {f : α → Compile β} {b : β} {ts'' : List Token} :
    (p >>= f) ts = .ok (b, ts'') ↔
      ∃ a ts', p ts = .ok (a, ts') ∧ f a ts' = .ok (b, ts'') := by
  change (StateT.bind p f ts : Except CompileError (β × List Token)) = _ ↔ _
  unfold StateT.bind
  cases h : p ts <;> simp [bind, Except.bind, Prod.ext_iff, and_assoc]

theorem bind_of_ok {p : Compile α} {a : α} (h : p ts = .ok (a, ts')) (f : α → Compile β) :
    (p >>= f) ts = f a ts' := by
  change (StateT.bind p f ts : Except CompileError (β × List Token)) = _
  simp [StateT.bind, h, bind, Except.bind]

@[simp] theorem pure_eq_ok {a b : α} :
    (pure a : Compile α) ts = .ok (b, ts') ↔ a = b ∧ ts = ts' := by
  change (Except.ok (a, ts) : Except CompileError (α × List Token)) = _ ↔ _
  simp

@[simp] theorem lift_eq_ok {x : Except CompileError α} {a : α} :
    (liftM x : Compile α) ts = .ok (a, ts') ↔ x = .ok a ∧ ts = ts' := by
  cases x with
  | error e => exact iff_of_false nofun nofun
  | ok b =>
    change (Except.ok (b, ts) : Except CompileError (α × List Token)) = _ ↔ _
    simp

@[simp] theorem fail_ne_ok {expected : String} {a : α} :
    (fail expected : Compile α) ts ≠ .ok (a, ts') := nofun

@[simp] theorem bind_peek (f : Token → Compile β) : (peek >>= f) (t :: ts) = f t (t :: ts) := rfl

@[simp] theorem bind_check (f : Bool → Compile β) :
    (check kind >>= f) (t :: ts) = f (t.kind = kind) (t :: ts) := rfl

@[simp] theorem bind_remaining (f : Nat → Compile β) : (remaining >>= f) ts = f ts.length ts := rfl

@[simp] theorem bind_peekSecond {u : Token} (f : Kind → Compile β) :
    (peekSecond >>= f) (t :: u :: ts) = f u.kind (t :: u :: ts) := rfl

@[simp] theorem bind_peekSecond_last (f : Kind → Compile β) :
    (peekSecond >>= f) [t] = f .endOfInput [t] := rfl

theorem bind_advance (h : ts ≠ []) (f : Unit → Compile β) :
    (advance >>= f) (t :: ts) = f () ts := by
  refine bind_of_ok ?_ f
  have hlen := List.length_pos_iff.2 h
  simp [advance, hlen]

theorem kind_of_bind_expect {expected : String} {f : Unit → Compile β} {b : β}
    (h : (expect kind expected >>= f) (t :: ts) = .ok (b, ts')) : t.kind = kind := by
  refine Decidable.byContradiction fun hk => ?_
  obtain ⟨u, ts'', hu, -⟩ := bind_eq_ok.1 h
  rw [expect, bind_check, if_neg (by simpa using hk)] at hu
  exact fail_ne_ok hu

theorem bind_expect_eq_ok (h : ts ≠ []) {expected : String} {f : Unit → Compile β} {b : β} :
    (expect kind expected >>= f) (t :: ts) = .ok (b, ts') ↔
      t.kind = kind ∧ f () ts = .ok (b, ts') := by
  by_cases hk : t.kind = kind
  · have hexpect : expect kind expected (t :: ts) = .ok ((), ts) := by
      rw [expect, bind_check, if_pos (decide_eq_true hk)]
      exact bind_advance h pure
    simp only [bind_of_ok hexpect, hk, true_and]
  · exact iff_of_false (fun hb => hk (kind_of_bind_expect hb)) fun hb => hk hb.1

/-! ### Soundness -/

theorem Terminated.ne_nil (h : Terminated ts) : ts ≠ [] := by
  cases h <;> simp

theorem Terminated.exists_cons (h : Terminated ts) : ∃ t us, ts = t :: us :=
  List.exists_cons_of_ne_nil h.ne_nil

theorem Terminated.tail (h : Terminated (t :: ts)) (hk : t.kind ≠ .endOfInput) : Terminated ts := by
  cases h with
  | last hend => exact absurd hend hk
  | cons _ h => exact h

theorem Terminated.bind_expect (hts : Terminated (t :: ts)) {expected : String}
    {f : Unit → Compile β} {b : β}
    (h : (expect kind expected >>= f) (t :: ts) = .ok (b, ts')) (hkind : kind ≠ .endOfInput) :
    t.kind = kind ∧ Terminated ts ∧ f () ts = .ok (b, ts') := by
  have hk := kind_of_bind_expect h
  have htail := hts.tail (hk ▸ hkind)
  exact ⟨hk, htail, ((bind_expect_eq_ok htail.ne_nil).1 h).2⟩

/-- What a reader takes is a phrase. -/
def Sound (p : Compile α) (D : Phrase α) : Prop :=
  ∀ ⦃ts a ts'⦄, Terminated ts → p ts = .ok (a, ts') →
    Terminated ts' ∧ ∃ us, ts = us ++ ts' ∧ D us a

section

variable {operand : Compile Expr} {D : Phrase Expr} {operator? : Token → Option Operator}
  {O : Token → Operator → Prop}

/-- The operators that are looked for are those of the grammar. -/
def Finds (operator? : Token → Option Operator) (O : Token → Operator → Prop) : Prop :=
  ∀ t o, operator? t = some o ↔ O t o

/-- A chain goes on with what is read already on the left side. -/
theorem Sound.chainFrom (h : Sound operand D) (hO : Finds operator? O)
    (hop : ∀ t o, O t o → t.kind ≠ .endOfInput) {bound : Nat} {left e : Expr}
    (hleft : LeftGrouped O D us left) (hts : Terminated ts)
    (he : Compile.chainFrom operator? operand bound left ts = .ok (e, ts')) :
    Terminated ts' ∧ ∃ vs, ts = vs ++ ts' ∧ LeftGrouped O D (us ++ vs) e := by
  induction bound generalizing us ts left with
  | zero =>
    obtain ⟨rfl, rfl⟩ := pure_eq_ok.1 he
    exact ⟨hts, [], rfl, by rwa [List.append_nil]⟩
  | succ bound ih =>
    obtain ⟨t, ts, rfl⟩ := hts.exists_cons
    simp only [Compile.chainFrom, bind_peek] at he
    cases ho : operator? t with
    | none =>
      simp only [ho, pure_eq_ok] at he
      obtain ⟨rfl, rfl⟩ := he
      exact ⟨hts, [], rfl, by rwa [List.append_nil]⟩
    | some o =>
      have hoperator : O t o := (hO t o).1 ho
      have htail := hts.tail (hop t o hoperator)
      simp only [ho, bind_advance htail.ne_nil] at he
      obtain ⟨right, ts₁, hright, hrest⟩ := bind_eq_ok.1 he
      obtain ⟨hts₁, vs, rfl, hphrase⟩ := h htail hright
      obtain ⟨hts', ws, rfl, hall⟩ := ih (.binary hleft hoperator hphrase) hts₁ hrest
      exact ⟨hts', t :: vs ++ ws, by simp, by simpa using hall⟩

theorem Sound.leftChain (h : Sound operand D) (hO : Finds operator? O)
    (hop : ∀ t o, O t o → t.kind ≠ .endOfInput) :
    Sound (Compile.leftChain operator? operand) (LeftGrouped O D) := by
  intro ts e ts' hts he
  obtain ⟨first, ts₁, hfirst, hrest⟩ := bind_eq_ok.1 he
  obtain ⟨hts₁, us, rfl, hphrase⟩ := h hts hfirst
  rw [bind_remaining] at hrest
  obtain ⟨hts', vs, rfl, hall⟩ := Sound.chainFrom h hO hop (.operand hphrase) hts₁ hrest
  exact ⟨hts', us ++ vs, by simp, hall⟩

/-- A reader that takes the operators in front of an operand, one at each turn, and the phrases that
it is meant for. -/
structure Prefixing (loop : Nat → Compile Expr) (operand : Compile Expr) (P D : Phrase Expr)
    (test : Token → Bool) (build : Expr → Expr) : Prop where
  /-- A turn takes one operator, or else the operand. -/
  turn : ∀ bound, loop (bound + 1) = do
    if test (← peek) then
      advance
      return build (← loop bound)
    else operand
  /-- The end of the input is no operator. -/
  kind : ∀ t, test t → t.kind ≠ .endOfInput
  /-- A phrase is an operand that begins with no operator, or an operator and a phrase. -/
  phrase : ∀ ts e, P ts e ↔ ∃ t us, ts = t :: us ∧
    (test t = false ∧ D ts e ∨ test t = true ∧ ∃ e', P us e' ∧ build e' = e)

/-- The bound is not reached, so an operator is never taken for an operand. -/
theorem Prefixing.sound {loop : Nat → Compile Expr} {P : Phrase Expr} {test : Token → Bool}
    {build : Expr → Expr} (hp : Prefixing loop operand P D test build) (h : Sound operand D)
    (hD : Opens D) {bound : Nat} {e : Expr} (hts : Terminated ts) (hb : ts.length ≤ bound)
    (he : loop bound ts = .ok (e, ts')) : Terminated ts' ∧ ∃ us, ts = us ++ ts' ∧ P us e := by
  induction bound generalizing ts e with
  | zero => exact absurd (List.length_eq_zero_iff.1 (Nat.le_zero.1 hb)) hts.ne_nil
  | succ bound ih =>
    obtain ⟨t, ts, rfl⟩ := hts.exists_cons
    rw [hp.turn, bind_peek] at he
    cases ht : test t with
    | true =>
      have htail := hts.tail (hp.kind t ht)
      rw [if_pos ht, bind_advance htail.ne_nil] at he
      obtain ⟨e₁, ts₁, he₁, hrest⟩ := bind_eq_ok.1 he
      obtain ⟨rfl, rfl⟩ := pure_eq_ok.1 hrest
      obtain ⟨hts', us, rfl, hphrase⟩ := ih htail (Nat.le_of_succ_le_succ hb) he₁
      exact ⟨hts', t :: us, rfl, (hp.phrase _ _).2 ⟨t, us, rfl, .inr ⟨ht, e₁, hphrase, rfl⟩⟩⟩
    | false =>
      rw [if_neg (by simp [ht])] at he
      obtain ⟨hts', us, hus, hphrase⟩ := h hts he
      obtain ⟨u, us, rfl⟩ := List.exists_cons_of_ne_nil (hD.ne_nil hphrase)
      obtain ⟨rfl, rfl⟩ := List.cons.inj hus
      exact ⟨hts', t :: us, rfl, (hp.phrase _ _).2 ⟨t, us, rfl, .inl ⟨ht, hphrase⟩⟩⟩

theorem spells_iff {t : Token} {word : String} : spells t word = true ↔ SpellsWord word t := by
  simp only [spells, Bool.and_eq_true, decide_eq_true_eq]
  exact ⟨fun h => ⟨h.1, h.2⟩, fun h => ⟨h.kind, h.text⟩⟩

theorem spells_eq_false_iff {t : Token} {word : String} :
    spells t word = false ↔ ¬ SpellsWord word t := by
  rw [← spells_iff, Bool.not_eq_true]

theorem prefixing_negation (operand : Compile Expr) (D : Phrase Expr) :
    Prefixing (negationWithin operand) operand (Negated D) D (spells · "not") .not where
  turn _ := rfl
  kind t ht := by rw [(spells_iff.1 ht).kind]; decide
  phrase ts e := by
    constructor
    · rintro (⟨hn, h⟩ | ⟨hn, h⟩)
      · exact ⟨_, _, rfl, .inl ⟨spells_eq_false_iff.2 hn, h⟩⟩
      · exact ⟨_, _, rfl, .inr ⟨spells_iff.2 hn, _, h, rfl⟩⟩
    · rintro ⟨t, us, rfl, ⟨hn, h⟩ | ⟨hn, e', h, rfl⟩⟩
      · exact .operand (spells_eq_false_iff.1 hn) h
      · exact .not (spells_iff.1 hn) h

theorem Sound.negation (h : Sound operand D) (hD : Opens D) :
    Sound (Compile.negation operand) (Negated D) := by
  intro ts e ts' hts he
  rw [Compile.negation, bind_remaining] at he
  exact (prefixing_negation operand D).sound h hD hts (Nat.le_refl _) he

theorem negate_of_ne {e : Expr} (hn : ∀ n, e ≠ .integer n) (hx : ∀ x, e ≠ .float x) :
    negate e = .binary .subtract (.integer 0) e := by
  unfold negate
  split
  · exact absurd rfl (hn _)
  · exact absurd rfl (hx _)
  · rfl

/-- The sign in front of an operand is what `Signed` says it is. -/
theorem signed_negate {e : Expr} (ht : t.kind = .minus) (h : Signed D us e) :
    Signed D (t :: us) (negate e) := by
  unfold negate
  split
  · exact .integer ht h
  · exact .float ht h
  next hn hx => exact .difference ht h hn hx

theorem prefixing_sign (operand : Compile Expr) (D : Phrase Expr) :
    Prefixing (signWithin operand) operand (Signed D) D (fun t => t.kind = .minus) negate where
  turn _ := rfl
  kind t ht := by rw [of_decide_eq_true ht]; decide
  phrase ts e := by
    constructor
    · rintro (⟨hm, h⟩ | ⟨hm, h⟩ | ⟨hm, h⟩ | ⟨hm, h, hn, hx⟩)
      · exact ⟨_, _, rfl, .inl ⟨by simpa using hm, h⟩⟩
      · exact ⟨_, _, rfl, .inr ⟨by simpa using hm, _, h, rfl⟩⟩
      · exact ⟨_, _, rfl, .inr ⟨by simpa using hm, _, h, rfl⟩⟩
      · exact ⟨_, _, rfl, .inr ⟨by simpa using hm, _, h, negate_of_ne hn hx⟩⟩
    · rintro ⟨t, us, rfl, ⟨hm, h⟩ | ⟨hm, e', h, rfl⟩⟩
      · exact .operand (by simpa using hm) h
      · exact signed_negate (by simpa using hm) h

theorem Sound.sign (h : Sound operand D) (hD : Opens D) :
    Sound (Compile.sign operand) (Signed D) := by
  intro ts e ts' hts he
  rw [Compile.sign, bind_remaining] at he
  exact (prefixing_sign operand D).sound h hD hts (Nat.le_refl _) he

theorem Sound.comparison (h : Sound operand D) :
    Sound (Compile.comparison operand) (Compared D) := by
  intro ts e ts' hts he
  obtain ⟨left, ts₁, hleft, hrest⟩ := bind_eq_ok.1 he
  obtain ⟨hts₁, us, rfl, hphrase⟩ := h hts hleft
  obtain ⟨t, ts, rfl⟩ := hts₁.exists_cons
  simp only [bind_peek] at hrest
  cases ho : Operator.comparison? t.kind with
  | none =>
    simp only [ho, pure_eq_ok] at hrest
    obtain ⟨rfl, rfl⟩ := hrest
    exact ⟨hts₁, us, rfl, .operand hphrase⟩
  | some o =>
    have htail := hts₁.tail fun hk => by simp [hk, Operator.comparison?] at ho
    simp only [ho, bind_advance htail.ne_nil] at hrest
    obtain ⟨right, ts₂, hright, hrest⟩ := bind_eq_ok.1 hrest
    obtain ⟨rfl, rfl⟩ := pure_eq_ok.1 hrest
    obtain ⟨hts', vs, rfl, hphrase'⟩ := h htail hright
    have hoperator : ComparisonOperator t o := comparison?_eq_some_iff.1 ho
    exact ⟨hts', us ++ t :: vs, by simp, .binary hphrase hoperator hphrase'⟩

end

section

variable {fs : Functions} {inner : Compile Expr} {E : Phrase Expr}

theorem Sound.arguments (h : Sound inner E) (bound : Nat) :
    Sound (argumentsWithin inner bound) (Separated .comma E) := by
  induction bound with
  | zero => exact fun _ _ _ _ he => absurd he fail_ne_ok
  | succ bound ih =>
    intro ts es ts' hts he
    obtain ⟨first, ts₁, hfirst, hrest⟩ := bind_eq_ok.1 he
    obtain ⟨hts₁, us, rfl, hphrase⟩ := h hts hfirst
    obtain ⟨t, ts, rfl⟩ := hts₁.exists_cons
    simp only [bind_check] at hrest
    by_cases hk : t.kind = .comma
    · have htail := hts₁.tail (by rw [hk]; decide)
      simp only [hk, decide_true, if_true, bind_advance htail.ne_nil] at hrest
      obtain ⟨es, ts₂, hes, hrest⟩ := bind_eq_ok.1 hrest
      obtain ⟨rfl, rfl⟩ := pure_eq_ok.1 hrest
      obtain ⟨hts', vs, rfl, hphrases⟩ := ih htail hes
      exact ⟨hts', us ++ t :: vs, by simp, .cons hphrase hk hphrases⟩
    · simp only [hk, decide_false] at hrest
      obtain ⟨rfl, rfl⟩ := pure_eq_ok.1 hrest
      exact ⟨hts₁, us, rfl, .single hphrase⟩

theorem checkCall_eq_ok_iff {name : String} {count : Nat} :
    checkCall fs name count = .ok () ↔ ∃ f, fs.get? name = some f ∧ f.accepts count := by
  unfold checkCall
  cases fs.get? name with
  | none => simp
  | some f => by_cases h : f.accepts count <;> simp [h]

/-- The end of a call, once its arguments are read. -/
def closeCall (fs : Functions) (name : String) (arguments : List Expr) : Compile Expr := do
  expect .rightParen "',' or ')'"
  checkCall fs name arguments.length
  return .call name arguments

theorem call_eq (name : String) :
    Compile.call fs inner name = (do
      expect .leftParen "'('"
      if ← check .rightParen then closeCall fs name []
      else closeCall fs name (← argumentsWithin inner (← remaining))) := rfl

theorem closeCall_sound {name : String} {arguments : List Expr} {e : Expr}
    (hts : Terminated (t :: ts)) (he : closeCall fs name arguments (t :: ts) = .ok (e, ts')) :
    t.kind = .rightParen ∧ Terminated ts' ∧ ts = ts' ∧
      (∃ f, fs.get? name = some f ∧ f.accepts arguments.length) ∧ .call name arguments = e := by
  obtain ⟨hk, htail, he⟩ := hts.bind_expect he (by decide)
  obtain ⟨u, ts₁, hu, he⟩ := bind_eq_ok.1 he
  obtain ⟨hcheck, rfl⟩ := lift_eq_ok.1 hu
  obtain ⟨rfl, rfl⟩ := pure_eq_ok.1 he
  exact ⟨hk, htail, rfl, checkCall_eq_ok_iff.1 hcheck, rfl⟩

theorem Sound.call (h : Sound inner E) {name : String} {e : Expr} (hts : Terminated ts)
    (he : Compile.call fs inner name ts = .ok (e, ts')) :
    Terminated ts' ∧ ∃ us arguments, ts = us ++ ts' ∧ Parenthesized E us arguments ∧
      (∃ f, fs.get? name = some f ∧ f.accepts arguments.length) ∧ .call name arguments = e := by
  obtain ⟨o, ts, rfl⟩ := hts.exists_cons
  rw [call_eq] at he
  obtain ⟨ho, hts, he⟩ := hts.bind_expect he (by decide)
  obtain ⟨c, ts, rfl⟩ := hts.exists_cons
  rw [bind_check] at he
  by_cases hc : c.kind = .rightParen
  · rw [if_pos (decide_eq_true hc)] at he
    obtain ⟨-, hts', rfl, hf, rfl⟩ := closeCall_sound hts he
    exact ⟨hts', [o, c], [], rfl, .empty ho hc, hf, rfl⟩
  · rw [if_neg (by simpa using hc), bind_remaining] at he
    obtain ⟨arguments, ts₁, harguments, hrest⟩ := bind_eq_ok.1 he
    obtain ⟨hts₁, us, hus, hphrases⟩ := h.arguments _ hts harguments
    obtain ⟨c', ts₁, rfl⟩ := hts₁.exists_cons
    obtain ⟨hc', hts', rfl, hf, rfl⟩ := closeCall_sound hts₁ hrest
    exact ⟨hts', o :: us ++ [c'], arguments, by simp [hus], .filled ho hphrases hc', hf, rfl⟩

theorem numberOf_eq_ok {spelling : String} {e : Expr} (h : numberOf spelling = .ok e) :
    (∃ n, Decimal.readInt64? spelling = some n ∧ .integer n = e) ∨
      Decimal.readInt64? spelling = none ∧
        ∃ x, Decimal.readFloat? spelling = some x ∧ .float x = e := by
  unfold numberOf at h
  split at h
  next n hn => exact .inl ⟨n, hn, Except.ok.inj h⟩
  next hn =>
    split at h
    next x hx => exact .inr ⟨hn, x, hx, Except.ok.inj h⟩
    next => cases h

/-- A word that is not called. -/
theorem primary_wordValue (hk : t.kind = .word) : Primary fs E [t] (wordValue t.text) := by
  unfold wordValue
  dsimp only
  split
  next hw => exact .true hk hw
  next hw₁ =>
    split
    next hw => exact .false hk hw
    next hw₂ =>
      split
      next hw => exact .null hk hw
      next hw₃ => exact .field hk (by simp [hw₁, hw₂, hw₃])

theorem Sound.primary (h : Sound inner E) : Sound (Compile.primary fs inner) (Primary fs E) := by
  intro ts e ts' hts he
  obtain ⟨t, ts, rfl⟩ := hts.exists_cons
  simp only [Compile.primary, bind_peek] at he
  generalize hk : t.kind = kind at he
  split at he
  · have htail := hts.tail (by rw [hk]; decide)
    rw [bind_advance htail.ne_nil] at he
    obtain ⟨hnumber, rfl⟩ := lift_eq_ok.1 he
    rcases numberOf_eq_ok hnumber with ⟨n, hn, rfl⟩ | ⟨hn, x, hx, rfl⟩
    · exact ⟨htail, [t], rfl, .integer hk hn⟩
    · exact ⟨htail, [t], rfl, .float hk hn hx⟩
  · have htail := hts.tail (by rw [hk]; decide)
    simp only [bind_advance htail.ne_nil, pure_eq_ok] at he
    obtain ⟨rfl, rfl⟩ := he
    exact ⟨htail, [t], rfl, .text hk⟩
  · have htail := hts.tail (by rw [hk]; decide)
    rw [bind_advance htail.ne_nil] at he
    obtain ⟨e₁, ts₁, he₁, hrest⟩ := bind_eq_ok.1 he
    obtain ⟨hts₁, us, rfl, hphrase⟩ := h htail he₁
    obtain ⟨c, ts₁, rfl⟩ := hts₁.exists_cons
    obtain ⟨hc, hts', hrest⟩ := hts₁.bind_expect hrest (by decide)
    obtain ⟨rfl, rfl⟩ := pure_eq_ok.1 hrest
    exact ⟨hts', t :: us ++ [c], by simp, .group hk hphrase hc⟩
  · have htail := hts.tail (by rw [hk]; decide)
    rw [bind_advance htail.ne_nil] at he
    obtain ⟨u, ts, rfl⟩ := htail.exists_cons
    rw [bind_check] at he
    by_cases hu : u.kind = .leftParen
    · rw [if_pos (decide_eq_true hu)] at he
      obtain ⟨hts', us, arguments, hus, hargs, ⟨f, hf, hcount⟩, rfl⟩ := h.call htail he
      obtain ⟨hleast, hmost⟩ := Function.accepts_iff.1 hcount
      exact ⟨hts', t :: us, by rw [hus]; rfl, .call hk hf hargs hleast hmost⟩
    · rw [if_neg (by simpa using hu)] at he
      obtain ⟨rfl, rfl⟩ := pure_eq_ok.1 he
      exact ⟨htail, [t], rfl, primary_wordValue hk⟩
  · exact absurd he fail_ne_ok

theorem finds_or : Finds orOperator? OrOperator := by
  intro t o
  simp only [orOperator?, Option.ite_none_right_eq_some, Option.some.injEq, spells_iff]
  constructor
  · rintro ⟨hw, rfl⟩
    exact .or hw
  · rintro ⟨hw⟩
    exact ⟨hw, rfl⟩

theorem finds_and : Finds andOperator? AndOperator := by
  intro t o
  simp only [andOperator?, Option.ite_none_right_eq_some, Option.some.injEq, spells_iff]
  constructor
  · rintro ⟨hw, rfl⟩
    exact .and hw
  · rintro ⟨hw⟩
    exact ⟨hw, rfl⟩

theorem finds_sum : Finds sumOperator? SumOperator := by
  intro t o
  constructor
  · intro h
    unfold sumOperator? at h
    split at h
    next hk => exact Option.some.inj h ▸ .add hk
    next hk => exact Option.some.inj h ▸ .subtract hk
    next => cases h
  · intro h
    cases h <;> simp [sumOperator?, *]

theorem finds_product : Finds productOperator? ProductOperator := by
  intro t o
  constructor
  · intro h
    unfold productOperator? at h
    split at h
    next hk => exact Option.some.inj h ▸ .multiply hk
    next hk => exact Option.some.inj h ▸ .divide hk
    next hk => exact Option.some.inj h ▸ .modulo hk
    next => cases h
  · intro h
    cases h <;> simp [productOperator?, *]

theorem Sound.ladder (h : Sound inner E) : Sound (Compile.ladder fs inner) (Ladder fs E) := by
  have hprimary : Sound (Compile.primary fs inner) (Primary fs E) := h.primary
  have hsign := hprimary.sign Primary.opens
  have hproduct := hsign.leftChain finds_product fun _ _ => ProductOperator.kind_ne
  have hsum := hproduct.leftChain finds_sum fun _ _ => SumOperator.kind_ne
  have hnegation := hsum.comparison.negation opens_compared
  have hand := hnegation.leftChain finds_and fun _ _ => AndOperator.kind_ne
  exact hand.leftChain finds_or fun _ _ => OrOperator.kind_ne

end

theorem Sound.expressionWithin (fs : Functions) (bound : Nat) :
    Sound (Compile.expressionWithin fs bound) (Expression fs) := by
  induction bound with
  | zero => exact fun _ _ _ _ he => absurd he fail_ne_ok
  | succ bound ih =>
    intro ts e ts' hts he
    obtain ⟨hts', us, hus, hphrase⟩ := Sound.ladder ih hts he
    exact ⟨hts', us, hus, .intro hphrase⟩

theorem Sound.expression (fs : Functions) : Sound (Compile.expression fs) (Expression fs) := by
  intro ts e ts' hts he
  rw [Compile.expression, bind_remaining] at he
  exact Sound.expressionWithin fs _ hts he

/-- A reader of an expression makes an instruction of it. -/
theorem Sound.bare (fs : Functions) :
    Sound (do return .assign resultName (← Compile.expression fs)) (Instructing fs) := by
  intro ts i ts' hts hi
  obtain ⟨e, ts₁, he, hrest⟩ := bind_eq_ok.1 hi
  obtain ⟨rfl, rfl⟩ := pure_eq_ok.1 hrest
  obtain ⟨hts', us, rfl, hphrase⟩ := Sound.expression fs hts he
  exact ⟨hts', us, rfl, .bare hphrase⟩

theorem Sound.instruction (fs : Functions) : Sound (Compile.instruction fs) (Instructing fs) := by
  intro ts i ts' hts hi
  obtain ⟨t, ts, rfl⟩ := hts.exists_cons
  simp only [Compile.instruction, bind_peek] at hi
  by_cases hq : t.kind = .question
  · have htail := hts.tail (by rw [hq]; decide)
    simp only [hq, if_true, bind_advance htail.ne_nil] at hi
    obtain ⟨o, ts, rfl⟩ := htail.exists_cons
    obtain ⟨ho, htail, hinside⟩ := htail.bind_expect hi (by decide)
    obtain ⟨e, ts₁, he, hclose⟩ := bind_eq_ok.1 hinside
    obtain ⟨hts₁, us, rfl, hphrase⟩ := Sound.expression fs htail he
    obtain ⟨c, ts₁, rfl⟩ := hts₁.exists_cons
    obtain ⟨hc, hts', hrest⟩ := hts₁.bind_expect hclose (by decide)
    obtain ⟨rfl, rfl⟩ := pure_eq_ok.1 hrest
    exact ⟨hts', t :: o :: us ++ [c], by simp, .filter hq ho hphrase hc⟩
  · simp only [hq, if_false] at hi
    cases ts with
    | nil =>
      -- Behind the last token there is no mark of an assignment.
      rw [bind_peekSecond_last, if_neg (by simp)] at hi
      exact Sound.bare fs hts hi
    | cons u ts =>
      rw [bind_peekSecond] at hi
      by_cases ha : t.kind = .word ∧ u.kind = .assign
      · have htail := hts.tail (by rw [ha.1]; decide)
        have htail' := htail.tail (by rw [ha.2]; decide)
        simp only [ha, decide_true, Bool.and_self, if_true, bind_advance htail.ne_nil,
          bind_advance htail'.ne_nil] at hi
        obtain ⟨e, ts₁, he, hrest⟩ := bind_eq_ok.1 hi
        obtain ⟨rfl, rfl⟩ := pure_eq_ok.1 hrest
        obtain ⟨hts', us, rfl, hphrase⟩ := Sound.expression fs htail' he
        exact ⟨hts', t :: u :: us, rfl, .assign ha.1 ha.2 hphrase⟩
      · rw [if_neg (by simpa using ha)] at hi
        exact Sound.bare fs hts hi

end Compile

end RowSieve

import RowSieve.Decimal.Reading
import RowSieve.Expr.Basic
import RowSieve.Function.Basic
import RowSieve.Proofs.Grammar.Phrase

/-!
# The grammar of programs

Which tokens make up a program, and the instructions it stands for.  Each level of operators is a
construction that makes its phrases from those of the next tighter level; `Phrase.Expression` puts
the levels on top of each other and ties the knot at parentheses and arguments.

Operators that group to the left come from left recursion, and the word `not` in front of an operand
is never the name of a field.
-/

namespace RowSieve

namespace Phrase

/-- The token is this word, in capitals or not. -/
structure SpellsWord (word : String) (t : Token) : Prop where
  /-- It is a word. -/
  kind : t.kind = .word
  /-- Its letters are those of the word. -/
  text : Text.asciiLower t.text = word

instance {word : String} {t : Token} : Decidable (SpellsWord word t) :=
  decidable_of_iff (t.kind = .word ∧ Text.asciiLower t.text = word)
    ⟨fun h => ⟨h.1, h.2⟩, fun h => ⟨h.kind, h.text⟩⟩

/-- The operator between conditions of which one must hold. -/
inductive OrOperator : Token → Operator → Prop where
  /-- The word `or`. -/
  | or {t} : SpellsWord "or" t → OrOperator t .or

/-- The operator between conditions which must all hold. -/
inductive AndOperator : Token → Operator → Prop where
  /-- The word `and`. -/
  | and {t} : SpellsWord "and" t → AndOperator t .and

/-- The operators between products. -/
inductive SumOperator : Token → Operator → Prop where
  /-- The mark `+`. -/
  | add {t} : t.kind = .plus → SumOperator t .add
  /-- The mark `-`. -/
  | subtract {t} : t.kind = .minus → SumOperator t .subtract

/-- The operators between factors. -/
inductive ProductOperator : Token → Operator → Prop where
  /-- The mark `*`. -/
  | multiply {t} : t.kind = .star → ProductOperator t .multiply
  /-- The mark `/`. -/
  | divide {t} : t.kind = .slash → ProductOperator t .divide
  /-- The mark `%`. -/
  | modulo {t} : t.kind = .percent → ProductOperator t .modulo

/-- Operands with operators between them, grouping to the left. -/
inductive LeftGrouped (O : Token → Operator → Prop) (D : Phrase Expr) : Phrase Expr where
  /-- An operand. -/
  | operand {ts e} : D ts e → LeftGrouped O D ts e
  /-- All operands but the last one are on the left side of the last operator. -/
  | binary {ts left t operator us right} : LeftGrouped O D ts left → O t operator → D us right →
    LeftGrouped O D (ts ++ t :: us) (.binary operator left right)

/-- An operand with any number of negations in front of it. -/
inductive Negated (D : Phrase Expr) : Phrase Expr where
  /-- An operand, which does not begin with the word `not`. -/
  | operand {t ts e} : ¬ SpellsWord "not" t → D (t :: ts) e → Negated D (t :: ts) e
  /-- A negation. -/
  | not {t ts e} : SpellsWord "not" t → Negated D ts e → Negated D (t :: ts) (.not e)

/-- An operand, or two operands with a comparison between them. -/
inductive Compared (D : Phrase Expr) : Phrase Expr where
  /-- An operand. -/
  | operand {ts e} : D ts e → Compared D ts e
  /-- A comparison. -/
  | binary {ts left t operator us right} : D ts left → ComparisonOperator t operator →
    D us right → Compared D (ts ++ t :: us) (.binary operator left right)

/-- An operand with any number of signs in front of it.  Numbers take the sign; from anything else
the sign makes a difference. -/
inductive Signed (D : Phrase Expr) : Phrase Expr where
  /-- An operand. -/
  | operand {t ts e} : t.kind ≠ .minus → D (t :: ts) e → Signed D (t :: ts) e
  /-- The sign of a whole number. -/
  | integer {t ts n} : t.kind = .minus → Signed D ts (.integer n) →
    Signed D (t :: ts) (.integer (-n))
  /-- The sign of a double. -/
  | float {t ts x} : t.kind = .minus → Signed D ts (.float x) → Signed D (t :: ts) (.float (-x))
  /-- The sign of anything else. -/
  | difference {t ts e} : t.kind = .minus → Signed D ts e → (∀ n, e ≠ .integer n) →
    (∀ x, e ≠ .float x) → Signed D (t :: ts) (.binary .subtract (.integer 0) e)

/-- An operand of the tightest operators, with expressions `E` inside. -/
inductive Primary (fs : Functions) (E : Phrase Expr) : Phrase Expr where
  /-- A whole number that fits. -/
  | integer {t n} : t.kind = .number → Decimal.readInt64? t.text = some n →
    Primary fs E [t] (.integer n)
  /-- Any other number. -/
  | float {t x} : t.kind = .number → Decimal.readInt64? t.text = none →
    Decimal.readFloat? t.text = some x → Primary fs E [t] (.float x)
  /-- A text. -/
  | text {t} : t.kind = .text → Primary fs E [t] (.text t.text)
  /-- The word `true`. -/
  | true {t} : t.kind = .word → Text.asciiLower t.text = "true" → Primary fs E [t] (.boolean true)
  /-- The word `false`. -/
  | false {t} : t.kind = .word → Text.asciiLower t.text = "false" →
    Primary fs E [t] (.boolean false)
  /-- The word `null`. -/
  | null {t} : t.kind = .word → Text.asciiLower t.text = "null" → Primary fs E [t] .null
  /-- A field. -/
  | field {t} : t.kind = .word → Text.asciiLower t.text ∉ ["true", "false", "null"] →
    Primary fs E [t] (.field t.text)
  /-- A call of a function, with as many arguments as it needs and no more than it takes. -/
  | call {t f ts arguments} : t.kind = .word → fs.get? t.text = some f →
    Parenthesized E ts arguments → f.least ≤ arguments.length →
    (∀ most, f.most = some most → arguments.length ≤ most) →
    Primary fs E (t :: ts) (.call t.text arguments)
  /-- An expression in parentheses. -/
  | group {o ts e c} : o.kind = .leftParen → E ts e → c.kind = .rightParen →
    Primary fs E (o :: ts ++ [c]) e

/-- An expression. -/
inductive Expression (fs : Functions) : Phrase Expr where
  /-- The levels of operators, with expressions inside. -/
  | intro {ts e} :
    LeftGrouped OrOperator (LeftGrouped AndOperator (Negated (Compared
      (LeftGrouped SumOperator (LeftGrouped ProductOperator (Signed
        (Primary fs (Expression fs)))))))) ts e →
    Expression fs ts e

/-- The levels of operators, with phrases `E` for the expressions inside. -/
abbrev Ladder (fs : Functions) (E : Phrase Expr) : Phrase Expr :=
  LeftGrouped OrOperator <| LeftGrouped AndOperator <| Negated <| Compared <|
    LeftGrouped SumOperator <| LeftGrouped ProductOperator <| Signed <| Primary fs E

/-- A filter, an assignment or a bare expression. -/
inductive Instructing (fs : Functions) : Phrase Instruction where
  /-- A filter. -/
  | filter {q o ts e c} : q.kind = .question → o.kind = .leftParen → Expression fs ts e →
    c.kind = .rightParen → Instructing fs (q :: o :: ts ++ [c]) (.filter e)
  /-- An assignment. -/
  | assign {t a ts e} : t.kind = .word → a.kind = .assign → Expression fs ts e →
    Instructing fs (t :: a :: ts) (.assign t.text e)
  /-- A bare expression is assigned to `result`. -/
  | bare {ts e} : Expression fs ts e → Instructing fs ts (.assign "result" e)

/-- Nothing but semicolons. -/
def Semicolons (ts : List Token) : Prop := ∀ t ∈ ts, t.kind = .endOfStatement

/-- Instructions with one or more semicolons between any two of them. -/
inductive Instructions (fs : Functions) : Phrase (List Instruction) where
  /-- An instruction. -/
  | single {ts i} : Instructing fs ts i → Instructions fs ts [i]
  /-- An instruction, semicolons and what follows. -/
  | cons {ts i t seps us is} : Instructing fs ts i → Semicolons (t :: seps) →
    Instructions fs us is → Instructions fs (ts ++ t :: seps ++ us) (i :: is)

/-- One or more instructions with any number of semicolons around them. -/
inductive Programming (fs : Functions) : Phrase Program where
  /-- Semicolons, instructions and semicolons. -/
  | intro {before ts is after} : Semicolons before → Instructions fs ts is → Semicolons after →
    Programming fs (before ++ ts ++ after) ⟨is, none⟩

/-! ### Phrases inside phrases

Parts of an expression that are expressions themselves are shorter, which is why statements on
expressions can be proved by induction on their length (`Expression.induct`).
-/

variable {fs : Functions} {D E : Phrase Expr} {ts : List Token} {e : Expr}
  {O : Token → Operator → Prop}

theorem LeftGrouped.mono (h : LeftGrouped O D ts e)
    (hDE : ∀ us a, us.length ≤ ts.length → D us a → E us a) : LeftGrouped O E ts e := by
  induction h with
  | operand h => exact .operand (hDE _ _ (Nat.le_refl _) h)
  | binary _ ho h ih =>
    simp only [List.length_append, List.length_cons] at hDE
    exact .binary (ih fun us a hlen => hDE us a (by omega)) ho (hDE _ _ (by omega) h)

theorem Negated.mono (h : Negated D ts e)
    (hDE : ∀ us a, us.length ≤ ts.length → D us a → E us a) : Negated E ts e := by
  induction h with
  | operand hn h => exact .operand hn (hDE _ _ (Nat.le_refl _) h)
  | not hn _ ih => exact .not hn (ih fun us a hlen => hDE us a (Nat.le_succ_of_le hlen))

theorem Compared.mono (h : Compared D ts e)
    (hDE : ∀ us a, us.length ≤ ts.length → D us a → E us a) : Compared E ts e := by
  cases h with
  | operand h => exact .operand (hDE _ _ (Nat.le_refl _) h)
  | binary h ho h' =>
    simp only [List.length_append, List.length_cons] at hDE
    exact .binary (hDE _ _ (by omega) h) ho (hDE _ _ (by omega) h')

theorem Signed.mono (h : Signed D ts e)
    (hDE : ∀ us a, us.length ≤ ts.length → D us a → E us a) : Signed E ts e := by
  induction h with
  | operand hm h => exact .operand hm (hDE _ _ (Nat.le_refl _) h)
  | integer hm _ ih => exact .integer hm (ih fun us a hlen => hDE us a (Nat.le_succ_of_le hlen))
  | float hm _ ih => exact .float hm (ih fun us a hlen => hDE us a (Nat.le_succ_of_le hlen))
  | difference hm _ hn hx ih =>
    exact .difference hm (ih fun us a hlen => hDE us a (Nat.le_succ_of_le hlen)) hn hx

theorem Primary.mono (h : Primary fs D ts e)
    (hDE : ∀ us a, us.length < ts.length → D us a → E us a) : Primary fs E ts e := by
  cases h with
  | integer hk hn => exact .integer hk hn
  | float hk hn hx => exact .float hk hn hx
  | text hk => exact .text hk
  | true hk hw => exact .true hk hw
  | false hk hw => exact .false hk hw
  | null hk hw => exact .null hk hw
  | field hk hw => exact .field hk hw
  | call hk hf hargs hleast hmost =>
    have hargs := hargs.mono fun us a hlen => hDE us a (Nat.lt_succ_of_lt hlen)
    exact .call hk hf hargs hleast hmost
  | group ho h hc =>
    simp only [List.length_append, List.length_cons] at hDE
    exact .group ho (hDE _ _ (by omega) h) hc

theorem Ladder.mono (h : Ladder fs D ts e)
    (hDE : ∀ us a, us.length < ts.length → D us a → E us a) : Ladder fs E ts e := by
  -- Level by level, as no operand is longer than what it is part of.
  refine LeftGrouped.mono h fun _ _ _ h => ?_
  refine h.mono fun _ _ _ h => ?_
  refine h.mono fun _ _ _ h => ?_
  refine h.mono fun _ _ _ h => ?_
  refine h.mono fun _ _ _ h => ?_
  refine h.mono fun _ _ _ h => ?_
  refine h.mono fun _ _ _ h => ?_
  exact h.mono fun us a hlen => hDE us a (by omega)

/-- Induction on expressions: what holds of the expressions inside may be used. -/
theorem Expression.induct {P : List Token → Expr → Prop}
    (step : ∀ ts e, Ladder fs (fun us a => Expression fs us a ∧ P us a) ts e → P ts e)
    (h : Expression fs ts e) : P ts e := by
  induction hn : ts.length using Nat.strongRecOn generalizing ts e with
  | ind n ih =>
    obtain ⟨hladder⟩ := h
    exact step ts e (Ladder.mono hladder fun us a hlen ha => ⟨ha, ih _ (hn ▸ hlen) ha rfl⟩)

/-! ### Tokens of expressions -/

theorem Opens.leftGrouped (hD : Opens D) : Opens (LeftGrouped O D) := by
  intro ts e h
  induction h with
  | operand h => exact hD h
  | binary _ _ _ ih =>
    obtain ⟨t, us, rfl, ht⟩ := ih
    exact ⟨t, _, rfl, ht⟩

theorem Opens.compared (hD : Opens D) : Opens (Compared D) := by
  intro ts e h
  cases h with
  | operand h => exact hD h
  | binary h => exact hD.append h

theorem Opens.negated (hD : Opens D) : Opens (Negated D) := by
  intro ts e h
  cases h with
  | operand _ h => exact hD h
  | not hn => exact ⟨_, _, rfl, by simp [hn.kind]⟩

theorem Opens.signed (hD : Opens D) : Opens (Signed D) := by
  intro ts e h
  cases h with
  | operand _ h => exact hD h
  | integer hm => exact ⟨_, _, rfl, by simp [hm]⟩
  | float hm => exact ⟨_, _, rfl, by simp [hm]⟩
  | difference hm => exact ⟨_, _, rfl, by simp [hm]⟩

theorem Primary.opens : Opens (Primary fs E) := by
  intro ts e h
  cases h with
  | integer hk => exact ⟨_, _, rfl, by simp [hk]⟩
  | float hk => exact ⟨_, _, rfl, by simp [hk]⟩
  | text hk => exact ⟨_, _, rfl, by simp [hk]⟩
  | true hk => exact ⟨_, _, rfl, by simp [hk]⟩
  | false hk => exact ⟨_, _, rfl, by simp [hk]⟩
  | null hk => exact ⟨_, _, rfl, by simp [hk]⟩
  | field hk => exact ⟨_, _, rfl, by simp [hk]⟩
  | call hk => exact ⟨_, _, rfl, by simp [hk]⟩
  | group hk => exact ⟨_, _, rfl, by simp [hk]⟩

/-- The levels up to comparisons. -/
theorem opens_compared : Opens (Compared (LeftGrouped SumOperator
    (LeftGrouped ProductOperator (Signed (Primary fs E))))) :=
  Primary.opens.signed.leftGrouped.leftGrouped.compared

theorem Expression.opens : Opens (Expression fs) := by
  intro ts e h
  obtain ⟨hladder⟩ := h
  exact opens_compared.negated.leftGrouped.leftGrouped hladder

/-- What stands inside an expression: no mark that belongs to an instruction. -/
def Inside (t : Token) : Prop :=
  t.kind ∉ [Kind.question, .assign, .endOfStatement, .endOfInput]

theorem inside_of_kind {t : Token} {kind : Kind} (h : t.kind = kind)
    (hkind : kind ∉ [Kind.question, .assign, .endOfStatement, .endOfInput]) : Inside t := by
  rw [Inside, h]
  exact hkind

variable {p : Token → Prop}

theorem LeftGrouped.forall_mem (h : LeftGrouped O D ts e)
    (hop : ∀ t o, O t o → p t) (hD : ∀ us a, D us a → ∀ t ∈ us, p t) :
    ∀ t ∈ ts, p t := by
  induction h with
  | operand h => exact hD _ _ h
  | binary _ ho h ih =>
    exact List.forall_mem_append.2 ⟨ih, List.forall_mem_cons.2 ⟨hop _ _ ho, hD _ _ h⟩⟩

theorem Negated.forall_mem (h : Negated D ts e) (hnot : ∀ t, SpellsWord "not" t → p t)
    (hD : ∀ us a, D us a → ∀ t ∈ us, p t) : ∀ t ∈ ts, p t := by
  induction h with
  | operand _ h => exact hD _ _ h
  | not hn _ ih => exact List.forall_mem_cons.2 ⟨hnot _ hn, ih⟩

theorem Compared.forall_mem (h : Compared D ts e)
    (hop : ∀ t o, ComparisonOperator t o → p t)
    (hD : ∀ us a, D us a → ∀ t ∈ us, p t) : ∀ t ∈ ts, p t := by
  cases h with
  | operand h => exact hD _ _ h
  | binary h ho h' =>
    exact List.forall_mem_append.2 ⟨hD _ _ h, List.forall_mem_cons.2 ⟨hop _ _ ho, hD _ _ h'⟩⟩

theorem Signed.forall_mem (h : Signed D ts e) (hminus : ∀ t : Token, t.kind = .minus → p t)
    (hD : ∀ us a, D us a → ∀ t ∈ us, p t) : ∀ t ∈ ts, p t := by
  induction h with
  | operand _ h => exact hD _ _ h
  | integer hm _ ih => exact List.forall_mem_cons.2 ⟨hminus _ hm, ih⟩
  | float hm _ ih => exact List.forall_mem_cons.2 ⟨hminus _ hm, ih⟩
  | difference hm _ _ _ ih => exact List.forall_mem_cons.2 ⟨hminus _ hm, ih⟩

theorem Primary.inside (h : Primary fs D ts e) (hD : ∀ us a, D us a → ∀ t ∈ us, Inside t) :
    ∀ t ∈ ts, Inside t := by
  cases h with
  | call hk _ hargs =>
    refine List.forall_mem_cons.2
      ⟨inside_of_kind hk (by decide), hargs.forall_mem (fun t ht => ?_) hD⟩
    simp only [List.mem_cons, List.not_mem_nil, or_false] at ht
    rcases ht with ht | ht | ht <;> exact inside_of_kind ht (by decide)
  | group ho h hc =>
    simp only [List.cons_append, List.forall_mem_cons, List.forall_mem_append]
    exact ⟨inside_of_kind ho (by decide), hD _ _ h, inside_of_kind hc (by decide), by simp⟩
  | integer hk => simpa using inside_of_kind hk (by decide)
  | float hk => simpa using inside_of_kind hk (by decide)
  | text hk => simpa using inside_of_kind hk (by decide)
  | true hk => simpa using inside_of_kind hk (by decide)
  | false hk => simpa using inside_of_kind hk (by decide)
  | null hk => simpa using inside_of_kind hk (by decide)
  | field hk => simpa using inside_of_kind hk (by decide)

theorem OrOperator.kind_eq {t : Token} {o : Operator} (h : OrOperator t o) : t.kind = .word := by
  cases h with
  | or h => exact h.kind

theorem AndOperator.kind_eq {t : Token} {o : Operator} (h : AndOperator t o) : t.kind = .word := by
  cases h with
  | and h => exact h.kind

theorem SumOperator.kind_mem {t : Token} {o : Operator} (h : SumOperator t o) :
    t.kind ∈ [Kind.plus, .minus] := by
  cases h <;> simp [*]

theorem ProductOperator.kind_mem {t : Token} {o : Operator} (h : ProductOperator t o) :
    t.kind ∈ [Kind.star, .slash, .percent] := by
  cases h <;> simp [*]

theorem OrOperator.kind_ne {t : Token} {o : Operator} (h : OrOperator t o) :
    t.kind ≠ .endOfInput := fun hk => by simpa [hk] using h.kind_eq

theorem AndOperator.kind_ne {t : Token} {o : Operator} (h : AndOperator t o) :
    t.kind ≠ .endOfInput := fun hk => by simpa [hk] using h.kind_eq

theorem SumOperator.kind_ne {t : Token} {o : Operator} (h : SumOperator t o) :
    t.kind ≠ .endOfInput := fun hk => by simpa [hk] using h.kind_mem

theorem ProductOperator.kind_ne {t : Token} {o : Operator} (h : ProductOperator t o) :
    t.kind ≠ .endOfInput := fun hk => by simpa [hk] using h.kind_mem

theorem inside_of_mem {t : Token} {kinds : List Kind} (h : t.kind ∈ kinds)
    (hkinds : ∀ k ∈ kinds, k ∉ [Kind.question, .assign, .endOfStatement, .endOfInput]) : Inside t :=
  hkinds _ h

theorem Ladder.inside (h : Ladder fs D ts e) (hD : ∀ us a, D us a → ∀ t ∈ us, Inside t) :
    ∀ t ∈ ts, Inside t := by
  refine LeftGrouped.forall_mem h
    (fun t o ho => inside_of_kind ho.kind_eq (by decide)) fun _ _ h => ?_
  refine h.forall_mem (fun t o ho => inside_of_kind ho.kind_eq (by decide)) fun _ _ h => ?_
  refine h.forall_mem (fun t hn => inside_of_kind hn.kind (by decide)) fun _ _ h => ?_
  refine h.forall_mem (fun t o ho => inside_of_mem ho.kind_mem (by decide)) fun _ _ h => ?_
  refine h.forall_mem (fun t o ho => inside_of_mem ho.kind_mem (by decide)) fun _ _ h => ?_
  refine h.forall_mem (fun t o ho => inside_of_mem ho.kind_mem (by decide)) fun _ _ h => ?_
  refine h.forall_mem (fun t hm => inside_of_kind hm (by decide)) fun _ _ h => ?_
  exact h.inside hD

/-- An expression does not go beyond the instruction that it stands in. -/
theorem Expression.inside (h : Expression fs ts e) : ∀ t ∈ ts, Inside t :=
  Expression.induct (P := fun ts _ => ∀ t ∈ ts, Inside t)
    (fun _ _ h => Ladder.inside h fun _ _ ha => ha.2) h

end Phrase

end RowSieve

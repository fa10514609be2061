import RowSieve.Proofs.Decimal.Whole
import RowSieve.Proofs.Expr.Operands
import RowSieve.Proofs.Expr.Progress
import RowSieve.Proofs.Expr.Reports
import RowSieve.Proofs.Request.Columns

/-!
# Literals of whole numbers

A number is spelled without a sign, so the whole number that it stands for is not negative.  A sign
in front of a whole number makes its opposite.  So no literal is the smallest number of 64 bits,
which is the only one without an opposite, however signs and parentheses are nested: every literal
is `Balanced`.  And every spelling of a number stands for one, as a double if it is too large.

`literals_balanced` says so of programs that are read from a source and of those for requests.
-/

namespace RowSieve

open Phrase

variable {fs : Functions} {n : Int64} {ts us : List Token} {e : Expr}

/-! ### Whole numbers in expressions -/

mutual

/-- The whole numbers in an expression, at any depth. -/
def Expr.integers : Expr → List Int64
  | .integer n => [n]
  | .float _ | .text _ | .boolean _ | .null | .field _ => []
  | .binary _ left right => left.integers ++ right.integers
  | .not operand => operand.integers
  | .call _ arguments => Expr.integersAll arguments

/-- The whole numbers in expressions. -/
def Expr.integersAll : List Expr → List Int64
  | [] => []
  | e :: es => e.integers ++ Expr.integersAll es

end

/-- The whole numbers in a program. -/
def Program.integers (p : Program) : List Int64 :=
  p.instructions.flatMap fun i => i.expr.integers

theorem mem_integersAll {es : List Expr} : n ∈ Expr.integersAll es ↔ ∃ e ∈ es, n ∈ e.integers := by
  induction es with
  | nil => simp [Expr.integersAll]
  | cons e es ih => simp [Expr.integersAll, ih]

/-- The opposite of the whole number has 64 bits too. -/
structure Balanced (n : Int64) : Prop where
  /-- It is not the smallest number. -/
  lower : -(2 ^ 63 - 1) ≤ n.toInt
  /-- It is not larger than the largest one. -/
  upper : n.toInt ≤ 2 ^ 63 - 1

theorem Balanced.ne_minValue (h : Balanced n) : n ≠ Int64.minValue := by
  rintro rfl
  exact absurd h.lower (by decide)

theorem Balanced.toInt_neg (h : Balanced n) : (-n).toInt = -n.toInt := by
  obtain ⟨hlower, hupper⟩ := h
  rw [Int64.toInt_neg]
  exact Int.bmod_eq_of_le (by omega) (by omega)

theorem Balanced.neg (h : Balanced n) : Balanced (-n) := by
  have hneg := h.toInt_neg
  obtain ⟨hlower, hupper⟩ := h
  constructor <;> omega

/-- All whole numbers in the expression have opposites. -/
def Expr.Balanced (e : Expr) : Prop := ∀ n ∈ e.integers, RowSieve.Balanced n

section

variable {left right operand : Expr} {operator : Operator} {name : String} {arguments : List Expr}

/-- What has no whole numbers is balanced. -/
theorem balanced_of_integers {e : Expr} (h : e.integers = []) : e.Balanced := by
  simp [Expr.Balanced, h]

theorem balanced_integer : (Expr.integer n).Balanced ↔ Balanced n := List.forall_mem_singleton

theorem balanced_not : (Expr.not operand).Balanced ↔ operand.Balanced := by
  simp [Expr.Balanced, Expr.integers]

theorem balanced_binary :
    (Expr.binary operator left right).Balanced ↔ left.Balanced ∧ right.Balanced := by
  simp only [Expr.Balanced, Expr.integers, List.forall_mem_append]

theorem balanced_call : (Expr.call name arguments).Balanced ↔ ∀ e ∈ arguments, e.Balanced := by
  simp only [Expr.Balanced, Expr.integers, mem_integersAll]
  exact ⟨fun h e he n hn => h n ⟨e, he, hn⟩, fun h n ⟨e, he, hn⟩ => h e he n hn⟩

theorem balanced_zero : (Expr.integer 0).Balanced := balanced_integer.2 ⟨by decide, by decide⟩

/-- A sign leads from one expression with opposites to another. -/
theorem Expr.Balanced.negate (h : operand.Balanced) : (Compile.negate operand).Balanced := by
  cases operand with
  | integer n => exact balanced_integer.2 (balanced_integer.1 h).neg
  | float x => exact balanced_of_integers rfl
  | text | boolean | null | field | binary | not | call =>
    exact balanced_binary.2 ⟨balanced_zero, h⟩

end

/-! ### Numbers among tokens -/

/-- The numbers among the tokens are spelled as numbers. -/
def Numerals (ts : List Token) : Prop :=
  ∀ t ∈ ts, t.kind = .number → Decimal.Numeral t.text.toList

theorem Numerals.mono (h : Numerals ts) (hus : us ⊆ ts) : Numerals us := fun t ht => h t (hus ht)

theorem numerals_append : Numerals (ts ++ us) ↔ Numerals ts ∧ Numerals us := List.forall_mem_append

theorem numerals_cons {t : Token} : Numerals (t :: ts) ↔
    (t.kind = .number → Decimal.Numeral t.text.toList) ∧ Numerals ts := List.forall_mem_cons

/-- A spelling without a sign does not stand for a negative number. -/
theorem Decimal.Numeral.balanced {s : String} (h : Numeral s.toList)
    (hn : readInt64? s = some n) : Balanced n := by
  rw [readInt64?, h.readInt?_eq] at hn
  cases hdigits : readDigits? s.toList with
  | none => simp [hdigits] at hn
  | some k =>
    rw [hdigits, Option.map_some, Option.bind_some] at hn
    by_cases hfits : fitsInt64 k = true
    · rw [if_pos hfits] at hn
      obtain rfl := Option.some.inj hn
      have hvalue : (Int64.ofInt k).toInt = k := toInt_ofInt_of_fits hfits
      have hnonneg := Int.natCast_nonneg k
      obtain ⟨-, hupper⟩ := fitsInt64_iff.1 hfits
      constructor <;> rw [hvalue] <;> omega
    · rw [if_neg hfits] at hn
      cases hn

/-! ### Programs that are read -/

theorem compositional_balanced (fs : Functions) :
    Compositional fs (fun t => t.kind = .number → Decimal.Numeral t.text.toList)
      Expr.Balanced where
  integer _ _ ht hk hn := balanced_integer.2 ((ht hk).balanced hn)
  float _ := balanced_of_integers rfl
  text _ := balanced_of_integers rfl
  boolean _ := balanced_of_integers rfl
  null := balanced_of_integers rfl
  field _ := balanced_of_integers rfl
  binary _ _ _ hleft hright := balanced_binary.2 ⟨hleft, hright⟩
  not _ h := balanced_not.2 h
  negate _ h := h.negate
  call _ _ _ h := balanced_call.2 h

theorem numerals_of_scan {source : String} {raw : List Token} (h : scan source = .ok raw) :
    Numerals (raw.filter fun t => t.kind ≠ .comment) :=
  fun t ht => numeral_of_scan h t (List.mem_filter.1 ht).1

theorem balanced_of_compile {source : String} {p : Program} (h : compile fs source = .ok p) :
    ∀ i ∈ p.instructions, i.expr.Balanced :=
  (compositional_balanced fs).of_compile h fun _ hscan => numeral_of_scan hscan

namespace Compile

theorem balanced_of_primary {bound : Nat} (hts : Terminated ts) (hnum : Numerals ts)
    (h : primary fs (expressionWithin fs bound) ts = .ok (e, us)) : e.Balanced := by
  obtain ⟨-, vs, rfl, hphrase⟩ := (Sound.expressionWithin fs bound).primary hts h
  have hQ := compositional_balanced fs
  exact hQ.of_primary (numerals_append.1 hnum).1 (fun _ _ hus ha => hQ.of_expression hus ha) hphrase

/-- What is read behind signs has an opposite, whatever the bounds of the readers. -/
theorem balanced_of_signWithin {bound bound' : Nat} (hts : Terminated ts) (hnum : Numerals ts)
    (h : signWithin (primary fs (expressionWithin fs bound)) bound' ts = .ok (e, us)) :
    e.Balanced := by
  -- On the bound of the reader of signs, which each sign lowers by one.
  induction bound' generalizing ts e with
  | zero => exact balanced_of_primary hts hnum h
  | succ bound' ih =>
    obtain ⟨t, ts, rfl⟩ := hts.exists_cons
    rw [signWithin, bind_check] at h
    by_cases hk : t.kind = .minus
    · have htail := hts.tail (by rw [hk]; decide)
      rw [if_pos (decide_eq_true hk), bind_advance htail.ne_nil] at h
      obtain ⟨operand, us', hoperand, hrest⟩ := bind_eq_ok.1 h
      obtain ⟨rfl, rfl⟩ := pure_eq_ok.1 hrest
      exact (ih htail (numerals_cons.1 hnum).2 hoperand).negate
    · rw [if_neg (by simpa using hk)] at h
      exact balanced_of_primary hts hnum h

end Compile

/-! ### Spellings of numbers -/

theorem compile_ne_invalidNumber (fs : Functions) (source spelling : String) :
    compile fs source ≠ .error (.invalidNumber spelling) := by
  intro h
  cases hscan : scan source with
  | error e => simp [compile, programTokens, hscan] at h
  | ok raw =>
    cases speaksOf_of_compile hscan h with
    | invalidNumber ht hk hnone =>
      have hsome := (numeral_of_scan hscan _ ht hk).isSome_readFloat?
      simp [hnone] at hsome

theorem exists_toExpr_of_toExprs {ns : List Node} {err : CompileError}
    (h : Node.toExprs fs ns = .error err) : ∃ n ∈ ns, n.toExpr fs = .error err := by
  induction ns with
  | nil => cases h
  | cons n ns ih =>
    rw [Node.toExprs] at h
    cases hn : n.toExpr fs with
    | error e =>
      rw [hn] at h
      cases h
      exact ⟨n, .head _, hn⟩
    | ok e =>
      rw [hn] at h
      obtain ⟨m, hm, herror⟩ := ih (map_eq_error_iff.1 h)
      exact ⟨m, .tail _ hm, herror⟩

theorem exists_toExpr_of_assignments {cs : List Column} {err : CompileError}
    (h : Column.assignments fs cs = .error err) : ∃ c ∈ cs, c.source.toExpr fs = .error err := by
  induction cs with
  | nil => cases h
  | cons c cs ih =>
    rw [Column.assignments] at h
    cases hc : c.source.toExpr fs with
    | error e =>
      rw [hc] at h
      cases h
      exact ⟨c, .head _, hc⟩
    | ok e =>
      rw [hc] at h
      obtain ⟨d, hd, herror⟩ := ih (map_eq_error_iff.1 h)
      exact ⟨d, .tail _ hd, herror⟩

theorem checkCall_ne_invalidNumber (fs : Functions) (name : String) (count : Nat)
    (spelling : String) : Compile.checkCall fs name count ≠ .error (.invalidNumber spelling) := by
  unfold Compile.checkCall
  split
  · simp
  · split <;> simp

theorem numberOf_ne_invalidNumber {s : String} (h : (Decimal.readFloat? s).isSome)
    (spelling : String) : Compile.numberOf s ≠ .error (.invalidNumber spelling) := by
  intro herror
  simp [(Compile.numberOf_eq_error herror).2] at h

/-- A number in an argument is a token, or a sign and a token. -/
theorem Phrase.Argument.toExpr_ne_invalidNumber {m : Node} (h : Argument ts m) (hts : Numerals ts)
    (spelling : String) : m.toExpr fs ≠ .error (.invalidNumber spelling) := by
  induction h using Argument.induct with
  | field => simp [Node.toExpr]
  | text => simp [Node.toExpr]
  | @number t hk => exact numberOf_ne_invalidNumber (hts t (.head _) hk).isSome_readFloat? spelling
  | @negative m t _ hk =>
    have ht := hts t (.tail _ (.head _)) hk
    refine numberOf_ne_invalidNumber ?_ spelling
    rw [ht.readFloat?_minus, Option.isSome_map]
    exact ht.isSome_readFloat?
  | @call t ts arguments _ _ ih =>
    intro herror
    rw [Node.toExpr] at herror
    cases hcheck : Compile.checkCall fs t.text arguments.length with
    | error e =>
      rw [hcheck] at herror
      cases herror
      exact checkCall_ne_invalidNumber fs _ _ spelling hcheck
    | ok u =>
      rw [hcheck] at herror
      obtain ⟨n, hn, hnerror⟩ := exists_toExpr_of_toExprs (map_eq_error_iff.1 herror)
      obtain ⟨us, ⟨_, hus⟩, hsub⟩ := ih.exists_of_mem n hn
      exact hus (hts.mono fun t ht => .tail _ (hsub t ht)) hnerror

/-- Whatever stands in a column is a number that is read, or no number. -/
theorem Switches.toExpr_ne_invalidNumber (switches : Switches) {m : Node}
    (h : switches.declarations.dialect.Produces m) (fs : Functions) (spelling : String) :
    m.toExpr fs ≠ .error (.invalidNumber spelling) := by
  obtain ⟨ts, column, hcolumn, rfl, hlegible⟩ := switches.exists_columnSource_of_produces h
  exact hcolumn.argument.toExpr_ne_invalidNumber (fun t ht => (hlegible t ht).number) spelling

/-- **Literals are well formed.**  In a program that is read from a source, every whole number lies
between two opposites; and so does what the reader of signs finds at any place of the source, so
that its opposite never goes out of range.  No number of a source is turned down for its spelling,
nor is one in a request that is read in a variant of the stock dialect. -/
theorem literals_balanced (fs : Functions) (source : String) :
    (∀ p, compile fs source = .ok p →
      ∀ n ∈ p.integers, -(2 ^ 63 - 1) ≤ n.toInt ∧ n.toInt ≤ 2 ^ 63 - 1) ∧
    (∀ tokens, programTokens source = .ok tokens → ∀ pos < tokens.length,
      ∀ bound bound' n us,
        Compile.signWithin (Compile.primary fs (Compile.expressionWithin fs bound)) bound'
          (tokens.drop pos) = .ok (.integer n, us) →
        n ≠ Int64.minValue ∧ (-n).toInt = -n.toInt) ∧
    (∀ spelling, compile fs source ≠ .error (.invalidNumber spelling)) ∧
    ∀ (switches : Switches) (registry : Registry) (d : Dialect Empty),
      (switches.declarations.establish registry).1 = .ok d →
      ∀ r, (parse d source = .ok r ∨ ∃ rs, parseScript d source = .ok rs ∧ r ∈ rs) →
      ∀ spelling, Program.ofRequest fs r ≠ .error (.invalidNumber spelling) := by
  refine ⟨fun p hp n hn => ?_, fun tokens htokens pos hpos bound bound' n us h => ?_,
    compile_ne_invalidNumber fs source, fun switches registry d hd r hr spelling herror => ?_⟩
  · obtain ⟨i, hi, hmem⟩ := List.mem_flatMap.1 hn
    obtain ⟨hlower, hupper⟩ := balanced_of_compile hp i hi n hmem
    exact ⟨hlower, hupper⟩
  · cases hscan : scan source with
    | error e => simp [programTokens, hscan] at htokens
    | ok raw =>
      simp only [programTokens, hscan, Except.ok.injEq] at htokens
      subst htokens
      have hnumerals := (numerals_of_scan hscan).mono (List.drop_subset pos _)
      have hn := Compile.balanced_of_signWithin ((terminated_of_scan hscan).drop hpos) hnumerals h
      have hbalanced := balanced_integer.1 hn
      exact ⟨hbalanced.ne_minValue, hbalanced.toInt_neg⟩
  · obtain rfl := Declarations.eq_dialect_of_establish hd
    obtain ⟨c, hc, hcerror⟩ := exists_toExpr_of_assignments (map_eq_error_iff.1 herror)
    exact switches.toExpr_ne_invalidNumber ⟨source, r, hr, c, hc, rfl⟩ fs spelling hcerror

/-- The largest number behind two signs, one of them in parentheses, and in a request a number that
is too small to be whole. -/
theorem literals_balanced_nested :
    compile .empty "-(-9223372036854775807)" =
        .ok ⟨[.assign "result" (.integer 9223372036854775807)], none⟩ ∧
      (9223372036854775807 : Int64).toInt ≤ 2 ^ 63 - 1 ∧
      (-(-9223372036854775807 : Int64)).toInt = -(-9223372036854775807 : Int64).toInt ∧
      ∃ r, parse (Switches.mk false false).declarations.dialect
          "select f(-9223372036854775808) from t" = .ok r ∧
        ∀ spelling, Program.ofRequest .empty r ≠ .error (.invalidNumber spelling) := by
  have htokens : programTokens "-(-9223372036854775807)" = .ok [⟨.minus, "-", 0⟩,
      ⟨.leftParen, "(", 1⟩, ⟨.minus, "-", 2⟩, ⟨.number, "9223372036854775807", 3⟩,
      ⟨.rightParen, ")", 22⟩, ⟨.endOfInput, "", 23⟩] := rfl
  have hcompile : compile .empty "-(-9223372036854775807)" =
      .ok ⟨[.assign "result" (.integer 9223372036854775807)], none⟩ := by
    rw [compile, htokens]
    rfl
  have hsigns : Compile.signWithin (Compile.primary .empty (Compile.expressionWithin .empty 5)) 5
      [⟨.leftParen, "(", 1⟩, ⟨.minus, "-", 2⟩, ⟨.number, "9223372036854775807", 3⟩,
        ⟨.rightParen, ")", 22⟩, ⟨.endOfInput, "", 23⟩] =
      .ok (.integer (-9223372036854775807), [⟨.endOfInput, "", 23⟩]) := rfl
  obtain ⟨hrange, hopposite, -, -⟩ := literals_balanced .empty "-(-9223372036854775807)"
  have hrequest : (Switches.mk false false).declarations.dialect.tokenize
      "select f(-9223372036854775808) from t" =
      .ok [⟨.selectWord, "select", 0⟩, ⟨.function, "f", 7⟩, ⟨.leftParen, "(", 8⟩, ⟨.minus, "-", 9⟩,
        ⟨.number, "9223372036854775808", 10⟩, ⟨.rightParen, ")", 29⟩, ⟨.fromWord, "from", 31⟩,
        ⟨.word, "t", 36⟩, ⟨.endOfInput, "", 37⟩] :=
    Relay.run_of_afterSteps (n := 20) (by rfl)
  have hparse := parse_of_tokenize hrequest
  obtain ⟨-, -, -, hspelled⟩ := literals_balanced .empty "select f(-9223372036854775808) from t"
  exact ⟨hcompile, (hrange _ hcompile _ (.head _)).2,
    (hopposite _ htokens 1 (by decide) 5 5 _ _ hsigns).2, _, hparse,
    hspelled ⟨false, false⟩ .shared _ rfl _ (.inl hparse)⟩

end RowSieve

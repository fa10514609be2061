import RowSieve.Json.Number
import RowSieve.Proofs.Decimal.Digits
import RowSieve.Proofs.Json.Documents

/-!
# JSON numbers are read as they are written

`Json.Numeral` says how numbers are spelled in a document.  A reader finds the end of such a
spelling if something comes after it that belongs to no number (`Json.Numeral.readValue`).

Whole numbers are written so (`Json.numeral_toString`) and are read as what they are
(`Json.readInt?_toString`).  Doubles are too if they are finite (`Json.numeral_floatText`): in
either of the two ways to write one, the digits in front of the point begin with a zero only if
there is no other one.
-/

namespace RowSieve

namespace Json

/-- Digits, of which there is at least one. -/
def AreDigits (cs : List Char) : Prop := cs ≠ [] ∧ cs.all Char.isDigit = true

/-- The part of a number before its point: a zero stands alone. -/
inductive Whole : List Char → Prop where
  /-- Nothing but a zero. -/
  | zero : Whole ['0']
  /-- Digits that begin with another one. -/
  | digits {c cs} : c ≠ '0' → AreDigits (c :: cs) → Whole (c :: cs)

/-- The part of a number from its point on. -/
inductive Fraction : List Char → Prop where
  /-- There is none. -/
  | none : Fraction []
  /-- Digits after the point. -/
  | point {cs} : AreDigits cs → Fraction ('.' :: cs)

/-- The exponent of a number. -/
inductive Exponent : List Char → Prop where
  /-- There is none. -/
  | none : Exponent []
  /-- Digits with a sign. -/
  | signed {sign cs} : sign = '+' ∨ sign = '-' → AreDigits cs → Exponent ('e' :: sign :: cs)

/-- A number without a sign. -/
inductive Magnitude : List Char → Prop where
  /-- Its three parts. -/
  | parts {whole fraction exponent} : Whole whole → Fraction fraction → Exponent exponent →
    Magnitude (whole ++ fraction ++ exponent)

/-- A number as it is written. -/
inductive Numeral : List Char → Prop where
  /-- A number that is not negative. -/
  | magnitude {cs} : Magnitude cs → Numeral cs
  /-- A number with a minus. -/
  | minus {cs} : Magnitude cs → Numeral ('-' :: cs)

/-- What follows a number does not belong to it. -/
def EndsNumber (rest : List Char) : Prop :=
  ∀ c ∈ rest.head?, c.isDigit = false ∧ c ≠ '.' ∧ c ≠ 'e' ∧ c ≠ 'E'

variable {cs rest whole fraction exponent spelling : List Char}

/-! ### Finding the end -/

/-- Digits end where something else comes. -/
theorem splitDigits?_append_of_areDigits (h : AreDigits cs)
    (hrest : ∀ c ∈ rest.head?, c.isDigit = false) :
    splitDigits? (cs ++ rest) = some (cs, rest) := by
  have hall : ∀ c ∈ cs, c.isDigit = true := List.all_eq_true.1 h.2
  have hnone : rest.takeWhile Char.isDigit = [] ∧ rest.dropWhile Char.isDigit = rest := by
    cases rest with
    | nil => exact ⟨rfl, rfl⟩
    | cons c rest => simp [hrest c rfl]
  rw [splitDigits?, List.takeWhile_append_of_pos hall, List.dropWhile_append_of_pos hall, hnone.1,
    hnone.2, List.append_nil]
  simp [h.1]

theorem Whole.splitWhole? (h : Whole whole) (hrest : ∀ c ∈ rest.head?, c.isDigit = false) :
    splitWhole? (whole ++ rest) = some (whole, rest) := by
  cases h with
  | zero => rfl
  | @digits c cs hc hdigits =>
    rw [List.cons_append, Json.splitWhole?.eq_2 _ fun _ h => hc (List.cons.inj h).1,
      ← List.cons_append]
    exact splitDigits?_append_of_areDigits hdigits hrest

theorem Fraction.splitFraction? (h : Fraction fraction)
    (hrest : ∀ c ∈ rest.head?, c.isDigit = false ∧ c ≠ '.') :
    splitFraction? (fraction ++ rest) = some (fraction, rest) := by
  cases h with
  | none =>
    cases rest with
    | nil => rfl
    | cons c rest => exact Json.splitFraction?.eq_2 _ fun _ h => (hrest c rfl).2 (List.cons.inj h).1
  | point hdigits =>
    rw [List.cons_append, Json.splitFraction?,
      splitDigits?_append_of_areDigits hdigits fun c hc => (hrest c hc).1]
    rfl

theorem Exponent.splitExponent? (h : Exponent exponent) (hrest : EndsNumber rest) :
    splitExponent? (exponent ++ rest) = some (exponent, rest) := by
  cases h with
  | none =>
    cases rest with
    | nil => rfl
    | cons c rest =>
      obtain ⟨-, -, he, hE⟩ := hrest c rfl
      simp [Json.splitExponent?, he, hE]
  | @signed sign cs hsign hdigits =>
    have hsplit := splitDigits?_append_of_areDigits hdigits fun c hc => (hrest c hc).1
    simp [Json.splitExponent?, hsign, hsplit]

/-- An exponent begins with none of the characters that belong to the parts before it. -/
theorem Exponent.head?_append (h : Exponent exponent) (hrest : EndsNumber rest) :
    ∀ c ∈ (exponent ++ rest).head?, c.isDigit = false ∧ c ≠ '.' := by
  cases h with
  | none => exact fun c hc => ⟨(hrest c hc).1, (hrest c hc).2.1⟩
  | signed hsign hdigits =>
    rintro c hc
    cases hc
    decide

theorem Fraction.head?_append (h : Fraction fraction)
    (hrest : ∀ c ∈ rest.head?, c.isDigit = false) :
    ∀ c ∈ (fraction ++ rest).head?, c.isDigit = false := by
  cases h with
  | none => exact hrest
  | point hdigits =>
    rintro c hc
    cases hc
    rfl

theorem Magnitude.splitMagnitude? (h : Magnitude cs) (hrest : EndsNumber rest) :
    splitMagnitude? (cs ++ rest) = some (cs, rest) := by
  cases h with
  | parts hwhole hfraction hexponent =>
    have hafter := hexponent.head?_append hrest
    have hw := hwhole.splitWhole? (hfraction.head?_append fun c hc => (hafter c hc).1)
    have hf := hfraction.splitFraction? hafter
    have he := hexponent.splitExponent? hrest
    simp only [Json.splitMagnitude?, List.append_assoc, hw, hf, he, Option.bind_eq_bind,
      Option.bind_some, Option.pure_def]

theorem Magnitude.exists_digit (h : Magnitude cs) : ∃ c ds, cs = c :: ds ∧ c.isDigit = true := by
  cases h with
  | parts hwhole hfraction hexponent =>
    cases hwhole with
    | zero => exact ⟨_, _, rfl, rfl⟩
    | @digits c ds _ hdigits => exact ⟨c, _, rfl, List.all_eq_true.1 hdigits.2 c (.head _)⟩

/-- **A reader finds the end of a number.** -/
theorem Numeral.splitNumber? (h : Numeral spelling) (hrest : EndsNumber rest) :
    splitNumber? (spelling ++ rest) = some (spelling, rest) := by
  cases h with
  | magnitude hmagnitude =>
    have hsplit := hmagnitude.splitMagnitude? hrest
    obtain ⟨c, cs, rfl, hc⟩ := hmagnitude.exists_digit
    have hminus : c ≠ '-' := by
      rintro rfl
      cases hc
    rw [List.cons_append] at hsplit ⊢
    rw [Json.splitNumber?.eq_2 _ fun _ h => hminus (List.cons.inj h).1, hsplit]
  | minus hmagnitude =>
    rw [List.cons_append, Json.splitNumber?, hmagnitude.splitMagnitude? hrest]
    rfl

/-- A number begins with a digit or a minus. -/
theorem Numeral.exists_head (h : Numeral spelling) :
    ∃ c cs, spelling = c :: cs ∧ (c.isDigit = true ∨ c = '-') := by
  cases h with
  | magnitude hmagnitude =>
    obtain ⟨c, cs, rfl, hc⟩ := hmagnitude.exists_digit
    exact ⟨c, cs, rfl, .inl hc⟩
  | @minus cs hmagnitude => exact ⟨'-', cs, rfl, .inr rfl⟩

/-- **The document of a number is its spelling.** -/
theorem Numeral.readValue (h : Numeral spelling) (bound : Nat) (hrest : EndsNumber rest) :
    readValue (bound + 1) (spelling ++ rest) = some (.number spelling, rest) := by
  have hsplit := h.splitNumber? hrest
  obtain ⟨c, cs, rfl, hc⟩ := h.exists_head
  have hfirst : c ∉ ['n', 't', 'f', '"', '[', '\x7b'] ∧ isSpace c = false := by
    rcases hc with hc | rfl
    · have hnone : ∀ d ∈ ['n', 't', 'f', '"', '[', '\x7b', ' ', '\t', '\n', '\r'],
          d.isDigit = false := by simp
      have hne : ∀ d ∈ ['n', 't', 'f', '"', '[', '\x7b', ' ', '\t', '\n', '\r'], c ≠ d := by
        rintro d hd rfl
        rw [hnone c hd] at hc
        cases hc
      simp only [List.forall_mem_cons] at hne
      simp [isSpace, hne]
    · decide
  have hskip : skipSpaces (c :: cs ++ rest) = c :: (cs ++ rest) := by
    simp [skipSpaces, hfirst.2]
  rw [readValue_of_not_mem hskip hfirst.1, ← List.cons_append, hsplit]
  rfl

theorem AreDigits.not_control (h : AreDigits cs) : ∀ c ∈ cs, ¬ c.val < 0x20 := by
  intro c hc hlt
  have hdigit := List.all_eq_true.1 h.2 c hc
  simp only [Char.isDigit, Bool.and_eq_true, decide_eq_true_eq] at hdigit
  have hle : (48 : UInt32) ≤ c.val := hdigit.1
  rw [UInt32.le_iff_toNat_le] at hle
  rw [UInt32.lt_iff_toNat_lt] at hlt
  exact absurd (Nat.lt_of_le_of_lt hle hlt) (by decide)

theorem Magnitude.not_control (h : Magnitude cs) : ∀ c ∈ cs, ¬ c.val < 0x20 := by
  cases h with
  | @parts whole fraction exponent hwhole hfraction hexponent =>
    simp only [List.forall_mem_append]
    refine ⟨⟨?_, ?_⟩, ?_⟩
    · cases hwhole with
      | zero => simp
      | digits _ hdigits => exact hdigits.not_control
    · cases hfraction with
      | none => simp
      | point hdigits => exact List.forall_mem_cons.2 ⟨by decide, hdigits.not_control⟩
    · cases hexponent with
      | none => simp
      | signed hsign hdigits =>
        refine List.forall_mem_cons.2 ⟨by decide, List.forall_mem_cons.2 ⟨?_, hdigits.not_control⟩⟩
        rcases hsign with rfl | rfl <;> decide

/-- No control character belongs to a number. -/
theorem Numeral.not_control (h : Numeral spelling) : ∀ c ∈ spelling, ¬ c.val < 0x20 := by
  cases h with
  | magnitude hmagnitude => exact hmagnitude.not_control
  | minus hmagnitude => exact List.forall_mem_cons.2 ⟨by decide, hmagnitude.not_control⟩

/-! ### Whole numbers -/

theorem areDigits_toDigits (n : Nat) : AreDigits (Nat.toDigits 10 n) :=
  ⟨Nat.toDigits_ne_nil, Decimal.all_isDigit_toDigits n⟩

/-- Digits after those of a number that is not zero do not change how they begin. -/
theorem whole_toDigits_append {n : Nat} (hn : n ≠ 0) (hcs : cs.all Char.isDigit = true) :
    Whole (Nat.toDigits 10 n ++ cs) := by
  obtain ⟨c, ds, hds⟩ := List.exists_cons_of_ne_nil (Nat.toDigits_ne_nil (b := 10) (n := n))
  have hall : (Nat.toDigits 10 n ++ cs).all Char.isDigit = true := by
    rw [List.all_append, Decimal.all_isDigit_toDigits, hcs]
    rfl
  rw [hds, List.cons_append] at hall ⊢
  exact .digits (Decimal.ne_zero_of_toDigits hn hds) ⟨List.cons_ne_nil _ _, hall⟩

theorem whole_toDigits (n : Nat) : Whole (Nat.toDigits 10 n) := by
  by_cases hn : n = 0
  · subst hn
    exact .zero
  · rw [← List.append_nil (Nat.toDigits 10 n)]
    exact whole_toDigits_append hn rfl

theorem magnitude_toDigits (n : Nat) : Magnitude (Nat.toDigits 10 n) := by
  have hparts := Magnitude.parts (whole_toDigits n) .none .none
  rwa [List.append_nil, List.append_nil] at hparts

theorem toList_toString_natCast (n : Nat) : (toString (n : Int)).toList = Nat.toDigits 10 n :=
  Nat.toList_repr

theorem toList_toString_negSucc (n : Nat) :
    (toString (Int.negSucc n)).toList = '-' :: Nat.toDigits 10 (n + 1) := by
  have htext : toString (Int.negSucc n) = "-" ++ (n + 1).repr := rfl
  rw [htext, String.toList_append, Nat.toList_repr]
  rfl

theorem numeral_toString (n : Int) : Numeral (toString n).toList := by
  cases n with
  | ofNat n =>
    rw [Int.ofNat_eq_natCast, toList_toString_natCast]
    exact .magnitude (magnitude_toDigits n)
  | negSucc n =>
    rw [toList_toString_negSucc]
    exact .minus (magnitude_toDigits (n + 1))

/-- **A whole number is read as what it is.** -/
theorem readInt?_toString (n : Int) : Decimal.readInt? (toString n).toList = some n := by
  cases n with
  | ofNat n =>
    rw [Int.ofNat_eq_natCast, toList_toString_natCast, Decimal.readInt?,
      Decimal.splitSign_toDigits]
    dsimp only
    rw [Decimal.readDigits?_toDigits]
    rfl
  | negSucc n =>
    rw [toList_toString_negSucc, Decimal.readInt?, Decimal.splitSign]
    dsimp only
    rw [Decimal.readDigits?_toDigits]
    rfl

/-! ### Doubles -/

/-- The digits of a number are cut into two parts, of which the first one is not empty. -/
theorem whole_take_toDigits {n k : Nat} (hk : 0 < k) (hlt : k < (Nat.toDigits 10 n).length) :
    Whole ((Nat.toDigits 10 n).take k) := by
  have hn : n ≠ 0 := by
    rintro rfl
    rw [Nat.toDigits_zero] at hlt
    simp at hlt
    omega
  have hall : ((Nat.toDigits 10 n).take k).all Char.isDigit = true :=
    List.all_eq_true.2 fun d hd =>
      List.all_eq_true.1 (Decimal.all_isDigit_toDigits n) d (List.mem_of_mem_take hd)
  obtain ⟨c, cs, hcs⟩ := List.exists_cons_of_ne_nil (Nat.toDigits_ne_nil (b := 10) (n := n))
  obtain ⟨k, rfl⟩ := Nat.exists_eq_add_one.2 hk
  rw [hcs, List.take_succ_cons] at hall ⊢
  exact .digits (Decimal.ne_zero_of_toDigits hn hcs) ⟨List.cons_ne_nil _ _, hall⟩

/-- Digits around a point, with at least one on either side. -/
theorem magnitude_placePoint {digits : Nat} {power : Int} (hpower : power < 0) :
    Magnitude (Decimal.placePoint digits power).toList := by
  rw [Decimal.placePoint, if_neg (Int.not_le.2 hpower), String.toList_ofList]
  have hall := Decimal.all_isDigit_toDigits digits
  have hplaces : 0 < power.natAbs := by omega
  generalize power.natAbs = places at hplaces
  have hzeros : ∀ k, (List.replicate k '0' ++ Nat.toDigits 10 digits).all Char.isDigit = true := by
    intro k
    rw [List.all_append, hall, Bool.and_true]
    exact List.all_eq_true.2 fun c hc => by
      rw [List.eq_of_mem_replicate hc]
      rfl
  generalize hpadded : List.replicate (places + 1 - (Nat.toDigits 10 digits).length) '0' ++
    Nat.toDigits 10 digits = padded
  have hlength : places < padded.length := by
    rw [← hpadded, List.length_append, List.length_replicate]
    omega
  have hwhole : Whole (padded.take (padded.length - places)) := by
    by_cases hshort : (Nat.toDigits 10 digits).length ≤ places
    · -- Zeros are put in front, the first of which is the only digit before the point.
      have hzero : places + 1 - (Nat.toDigits 10 digits).length =
          places - (Nat.toDigits 10 digits).length + 1 := by omega
      have hone : padded.length - places = 1 := by
        rw [← hpadded, List.length_append, List.length_replicate]
        omega
      rw [hone, ← hpadded, hzero, List.replicate_succ]
      exact .zero
    · have hnone : places + 1 - (Nat.toDigits 10 digits).length = 0 := by omega
      rw [hnone, List.replicate_zero, List.nil_append] at hpadded
      subst hpadded
      exact whole_take_toDigits (by omega) (by omega)
  have hfraction : AreDigits (padded.drop (padded.length - places)) := by
    refine ⟨fun hnil => ?_, List.all_eq_true.2 fun c hc => ?_⟩
    · have hnone := List.drop_eq_nil_iff.1 hnil
      omega
    · exact List.all_eq_true.1 (hpadded ▸ hzeros _) c (List.mem_of_mem_drop hc)
  have hparts := Magnitude.parts hwhole (.point hfraction) .none
  rwa [List.append_nil] at hparts

theorem magnitude_pointText {digits : Nat} {power : Int} (h : digits ≠ 0 ∨ power ≤ 0) :
    Magnitude (pointText digits power).toList := by
  by_cases hpower : 0 ≤ power
  · have hwhole : Whole (Nat.toDigits 10 digits ++ List.replicate power.toNat '0') := by
      by_cases hdigits : digits = 0
      · have hzero : power.toNat = 0 := by omega
        rw [hzero, List.replicate_zero, List.append_nil]
        exact whole_toDigits digits
      · refine whole_toDigits_append hdigits (List.all_eq_true.2 fun c hc => ?_)
        rw [List.eq_of_mem_replicate hc]
        rfl
    have hfraction : Fraction ['.', '0'] := .point ⟨List.cons_ne_nil _ _, rfl⟩
    have hparts := Magnitude.parts hwhole hfraction .none
    rw [List.append_nil] at hparts
    rwa [pointText, Decimal.placePoint, if_pos hpower, if_pos hpower, String.toList_append,
      String.toList_ofList]
  · rw [pointText, if_neg hpower, String.append_empty]
    exact magnitude_placePoint (Int.not_le.1 hpower)

theorem magnitude_exponentText (digits : Nat) (exponent : Int) :
    Magnitude (exponentText digits exponent).toList := by
  have hexponent : Exponent ('e' :: (if exponent < 0 then '-' else '+') ::
      Nat.toDigits 10 exponent.natAbs) :=
    .signed (by split <;> simp) (areDigits_toDigits _)
  have htext : ∀ mantissa : List Char, (String.ofList mantissa ++ "e" ++
      (if exponent < 0 then "-" else "+") ++ toString exponent.natAbs).toList = mantissa ++
        'e' :: (if exponent < 0 then '-' else '+') :: Nat.toDigits 10 exponent.natAbs := by
    intro mantissa
    split <;> simp
  unfold exponentText
  dsimp only
  rw [htext]
  have hall := Decimal.all_isDigit_toDigits digits
  have hwhole := whole_toDigits digits
  split
  next d e ds hdigits =>
    have hpoint : AreDigits (e :: ds) := by
      rw [hdigits] at hall
      exact ⟨List.cons_ne_nil _ _, (Bool.and_eq_true_iff.1 hall).2⟩
    have hfirst : Whole [d] := by
      have htake := whole_take_toDigits (n := digits) (k := 1) (by decide) (by simp [hdigits])
      rwa [hdigits] at htake
    exact .parts hfirst (.point hpoint) hexponent
  next =>
    have hparts := Magnitude.parts hwhole .none hexponent
    rwa [List.append_nil] at hparts

theorem roundHalfEven_ne_zero {num den : Nat} (hden : 0 < den) (h : den ≤ num) :
    Decimal.roundHalfEven num den ≠ 0 := by
  have hquotient := Nat.div_pos h hden
  unfold Decimal.roundHalfEven
  dsimp only
  split <;> omega

/-- The double is a number. -/
def IsFinite (x : Float) : Prop :=
  ∃ negative mantissa exponent, Decimal.Double.ofFloat x = .finite negative mantissa exponent

theorem floatText_of_not_isFinite {x : Float} (h : ¬ IsFinite x) : floatText x = "null" := by
  unfold floatText
  split
  next => rfl
  next => rfl
  next hx => exact absurd ⟨_, _, _, hx⟩ h

/-- **A double that is a number is written as one.** -/
theorem numeral_floatText {x : Float} (h : IsFinite x) : Numeral (floatText x).toList := by
  obtain ⟨negative, mantissa, exponent, hx⟩ := h
  have hdigits := Decimal.shortest_ne_zero (fun _ _ => roundHalfEven_ne_zero) mantissa exponent
  have hmagnitude : ∀ {text : String}, Magnitude text.toList →
      Numeral (Decimal.signText negative ++ text).toList := by
    intro text htext
    cases negative with
    | false =>
      rw [Decimal.signText, if_neg (by simp), String.empty_append]
      exact .magnitude htext
    | true =>
      rw [Decimal.signText, if_pos rfl, String.toList_append]
      exact .minus htext
  rw [floatText, hx]
  dsimp only
  generalize Decimal.shortest Decimal.roundHalfEven mantissa exponent = written at hdigits ⊢
  obtain ⟨digits, power⟩ := written
  dsimp only at hdigits ⊢
  refine hmagnitude ?_
  split
  · exact magnitude_pointText (hdigits.imp_right fun hzero => (Prod.mk.inj hzero).2.le)
  · exact magnitude_exponentText _ _

end Json

end RowSieve

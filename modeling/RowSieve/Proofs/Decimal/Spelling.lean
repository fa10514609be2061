import Mathlib.Data.List.TakeWhile
import RowSieve.Proofs.Decimal.Digits
import RowSieve.Proofs.Token.Reading

/-!
# Spellings of numbers

`Decimal.Numeral` says how number tokens are spelled (`Cursor.numeral_of_next`): digits, and
possibly a point and more digits, with no sign and no exponent.  Of such texts, `Decimal` reads
those without a point as whole numbers where they fit, and all of them as doubles.
-/

namespace RowSieve

namespace Decimal

/-- Digits, possibly with a point and digits behind it. -/
inductive Numeral : List Char → Prop where
  /-- Digits. -/
  | whole {cs} : cs ≠ [] → cs.all Char.isDigit → Numeral cs
  /-- Digits on both sides of a point. -/
  | fraction {cs ds} : cs ≠ [] → cs.all Char.isDigit → ds ≠ [] → ds.all Char.isDigit →
    Numeral (cs ++ '.' :: ds)

variable {s : String} {c : Char} {cs : List Char}

theorem Numeral.exists_digit (h : Numeral cs) : ∃ c rest, cs = c :: rest ∧ c.isDigit := by
  cases h with
  | whole hne hall =>
    obtain ⟨c, rest, rfl⟩ := List.exists_cons_of_ne_nil hne
    exact ⟨c, rest, rfl, by simp_all⟩
  | fraction hne hall =>
    obtain ⟨c, rest, rfl⟩ := List.exists_cons_of_ne_nil hne
    exact ⟨c, _, rfl, by simp_all⟩

theorem numeral_splitNumber (hc : c.isDigit) : Numeral (splitNumber (c :: cs)).1 := by
  have hwhole : (c :: cs).takeWhile Char.isDigit ≠ [] := by simp [hc]
  unfold splitNumber
  split
  next d rest _ =>
    split
    next hd =>
      exact .fraction hwhole List.all_takeWhile (by simp [hd]) List.all_takeWhile
    next => exact .whole hwhole List.all_takeWhile
  next => exact .whole hwhole List.all_takeWhile

theorem Numeral.isSome_readUnsignedFloat? (h : Numeral cs) : (readUnsignedFloat? cs).isSome := by
  cases h with
  | whole hne hall =>
    have hall : ∀ c ∈ cs, c.isDigit := by simpa using hall
    have hdrop : cs.dropWhile Char.isDigit = [] := List.dropWhile_eq_nil_iff.2 hall
    have htake : cs.takeWhile Char.isDigit = cs := List.takeWhile_eq_self_iff.2 hall
    simp [readUnsignedFloat?, hdrop, htake, hne, readExponent?]
  | @fraction cs ds hne hall hne' hall' =>
    have hall : ∀ c ∈ cs, c.isDigit := by simpa using hall
    have hall' : ∀ c ∈ ds, c.isDigit := by simpa using hall'
    have hpoint : ('.' : Char).isDigit = false := rfl
    have hdrop : ds.dropWhile Char.isDigit = [] := List.dropWhile_eq_nil_iff.2 hall'
    have hsplit : (cs ++ '.' :: ds).dropWhile Char.isDigit = '.' :: ds := by
      rw [List.dropWhile_append_of_pos hall, List.dropWhile_cons_of_neg (by simp [hpoint])]
    have hwhole : (cs ++ '.' :: ds).takeWhile Char.isDigit = cs := by
      rw [List.takeWhile_append_of_pos hall, List.takeWhile_cons_of_neg (by simp [hpoint]),
        List.append_nil]
    simp [readUnsignedFloat?, hsplit, hwhole, hdrop, hne, readExponent?]

theorem Numeral.splitSign (h : Numeral cs) : Decimal.splitSign cs = (false, cs) := by
  obtain ⟨c, rest, rfl, hc⟩ := h.exists_digit
  exact splitSign_of_isDigit hc

/-- A number stands for a double, whether or not it is whole. -/
theorem Numeral.isSome_readFloat? (h : Numeral s.toList) : (readFloat? s).isSome := by
  unfold readFloat?
  simp only [h.splitSign, Option.isSome_map]
  split
  · rfl
  · split
    · rfl
    · exact h.isSome_readUnsignedFloat?

theorem readNat?_of_isDigit (hs : s.toList = c :: cs) (hc : c.isDigit) (bits : Nat) :
    readNat? bits s =
      (readDigits? s.toList).bind fun n => if n < 2 ^ bits then some n else none := by
  unfold readNat?
  rw [hs]
  split
  next cs' h =>
    rw [(List.cons.inj h).1] at hc
    exact absurd hc (by decide)
  next => rfl

theorem readNat?_eq_some_iff (hs : s.toList = c :: cs) (hc : c.isDigit) {bits n : Nat} :
    readNat? bits s = some n ↔
      s.toList.all Char.isDigit ∧ digitsValue 0 s.toList < 2 ^ bits ∧
        digitsValue 0 s.toList = n := by
  have hempty : s.toList.isEmpty = false := by rw [hs]; rfl
  rw [readNat?_of_isDigit hs hc, readDigits?, hempty, Bool.not_false, Bool.true_and]
  by_cases hall : s.toList.all Char.isDigit
  · by_cases hlt : digitsValue 0 s.toList < 2 ^ bits <;> simp_all
  · simp only [hall]
    simp

end Decimal

theorem Cursor.numeral_of_next {c after : Cursor} {token : Token}
    (h : c.next = (.ok token, after)) (hk : token.kind = .number) :
    Decimal.Numeral token.text.toList := by
  obtain ⟨l, hl, hfound, rfl, -⟩ := found_of_next h (by rw [hk]; decide)
  obtain ⟨⟨d, ds, hcs, hd⟩, hread⟩ := hfound.number hk
  rw [hread, hcs] at hl
  cases hl
  simpa using Decimal.numeral_splitNumber hd

end RowSieve

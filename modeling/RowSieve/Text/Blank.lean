/-!
# Blank characters

`isBlank` holds of the characters that separate tokens and pad fields: those with the
White_Space property.  A no-break space counts, a zero-width space does not.  `trim` removes
them from both ends of a text.
-/

namespace RowSieve

namespace Text

/-- Characters that only separate others: the White_Space property. -/
def isBlank (c : Char) : Bool :=
  c.val == 0x20 || (0x9 ≤ c.val && c.val ≤ 0xD) ||
    (0x80 ≤ c.val &&
      (c.val == 0x85 || c.val == 0xA0 || c.val == 0x1680 || (0x2000 ≤ c.val && c.val ≤ 0x200A) ||
        c.val == 0x2028 || c.val == 0x2029 || c.val == 0x202F || c.val == 0x205F ||
        c.val == 0x3000))

/-- The text without the blanks at its two ends. -/
def trimChars (cs : List Char) : List Char :=
  ((cs.dropWhile isBlank).reverse.dropWhile isBlank).reverse

/-- The text without the blanks at its two ends. -/
def trim (s : String) : String := String.ofList (trimChars s.toList)

/-- The text holds nothing but blanks. -/
def allBlank (cs : List Char) : Bool := cs.all isBlank

theorem isBlank_eq_false_of_isDigit {c : Char} (h : c.isDigit = true) : isBlank c = false := by
  have hdigits : ∀ n < 58, (Char.ofNat n).isDigit = true → isBlank (Char.ofNat n) = false := by
    decide
  have hle : c.toNat ≤ 57 := by
    simp only [Char.isDigit, Bool.and_eq_true, decide_eq_true_eq] at h
    exact UInt32.le_iff_toNat_le.1 h.2
  have hc := hdigits c.toNat (by omega)
  rw [Char.ofNat_toNat] at hc
  exact hc h

end Text

end RowSieve

import Mathlib.Data.Nat.Basic
import RowSieve.Proofs.Text.Lines

/-!
# The order of texts and of their bytes

Texts are ordered by the code points of their characters.  Their bytes are ordered alike
(`utf8_lt_utf8`), although a character takes one to four of them: longer codes begin with greater
bytes, and codes of one length are the digits of the code point to the base 64.
-/

namespace RowSieve

/-- Bytes compare as the numbers that they are made from. -/
theorem ofNat_cons_lt_iff {m n : Nat} {bs bs' : List UInt8} (hm : m < 256) (hn : n < 256) :
    UInt8.ofNat m :: bs < UInt8.ofNat n :: bs' ↔ m < n ∨ m = n ∧ bs < bs' := by
  rw [List.cons_lt_cons_iff, UInt8.lt_iff_toNat_lt, ← UInt8.toNat_inj,
    UInt8.toNat_ofNat_of_lt' hm, UInt8.toNat_ofNat_of_lt' hn]

/-- Of two numbers the smaller one has fewer whole bases, or as many and less beyond them. -/
theorem div_lt_or_mod_lt {m n : Nat} (h : m < n) (base : Nat) :
    m / base < n / base ∨ m / base = n / base ∧ m % base < n % base := by
  rcases (Nat.div_le_div_right h.le : m / base ≤ n / base).lt_or_eq with hlt | heq
  · exact .inl hlt
  · have hm := Nat.div_add_mod m base
    have hn := Nat.div_add_mod n base
    rw [heq] at hm
    exact .inr ⟨heq, by omega⟩

/-- The codes of two characters differ before either of them ends. -/
theorem utf8EncodeChar_append_lt {c d : Char} (h : c < d) (bs bs' : List UInt8) :
    String.utf8EncodeChar c ++ bs < String.utf8EncodeChar d ++ bs' := by
  have hlt : c.val.toNat < d.val.toNat := UInt32.lt_iff_toNat_lt.1 h
  have hmax : d.val.toNat < 0x110000 := by
    rcases d.valid with h | h <;> omega
  simp only [String.utf8EncodeChar]
  generalize c.val.toNat = m at hlt ⊢
  generalize d.val.toNat = n at hlt hmax ⊢
  -- All digits are found by dividing by 64 again and again, so that each comparison of quotients
  -- leads to the next one.
  have htwo : ∀ k, k / 4096 = k / 64 / 64 := fun k => (Nat.div_div_eq_div_mul k 64 64).symm
  have hthree : ∀ k, k / 262144 = k / 64 / 64 / 64 := fun k => by
    rw [Nat.div_div_eq_div_mul, Nat.div_div_eq_div_mul]
  simp only [htwo, hthree]
  have hlast := div_lt_or_mod_lt hlt 64
  have hthird := fun h : m / 64 < n / 64 => div_lt_or_mod_lt h 64
  have hsecond := fun h : m / 64 / 64 < n / 64 / 64 => div_lt_or_mod_lt h 64
  have hm : m / 64 / 64 / 64 < 8 := by omega
  have hn : n / 64 / 64 / 64 < 8 := by omega
  rw [Nat.mod_eq_of_lt hm, Nat.mod_eq_of_lt hn]
  split_ifs <;>
    simp (disch := omega) only [List.cons_append, List.nil_append, ofNat_cons_lt_iff] <;>
    omega

/-- **The order of texts is the order of their bytes.** -/
theorem utf8_lt_utf8 {s t : String} (h : s < t) : utf8 s < utf8 t := by
  rw [String.lt_iff] at h
  rw [utf8_eq_flatMap, utf8_eq_flatMap]
  generalize s.toList = cs at h
  generalize t.toList = ds at h
  induction h with
  | @nil d ds =>
    obtain ⟨b, bs, hb⟩ := List.exists_cons_of_ne_nil (String.utf8EncodeChar_ne_nil (c := d))
    rw [List.flatMap_cons, hb]
    exact List.nil_lt_cons _ _
  | cons _ ih =>
    rw [List.flatMap_cons, List.flatMap_cons]
    exact List.append_left_lt ih
  | rel hcd =>
    rw [List.flatMap_cons, List.flatMap_cons]
    exact utf8EncodeChar_append_lt hcd _ _

end RowSieve

import Mathlib.Tactic.Tauto
import RowSieve.Json.Text

/-!
# JSON strings are read as they are written

`Json.Escaped` tells the three ways in which a character stands inside a JSON string: by a letter
after a backslash, by its code, or as it is.  `Json.quote` uses them (`Json.escaped_escapeChar`),
and a reader that goes on from any of them finds the character again.  So a reader finds the end of a
quoted text where it is (`Json.splitText?_escape`), and what it has read stands for the text
(`Json.decodeText?_escape`), whatever characters there are.
-/

namespace RowSieve

namespace Json

/-- A spelling of a character inside a JSON string. -/
inductive Escaped (c : Char) : List Char → Prop
  /-- A letter after a backslash. -/
  | letter {e : Char} : e ∈ ['"', '\\', 'b', 'f', 'n', 'r', 't'] → unescape e = c →
    Escaped c ['\\', e]
  /-- Its code, for a control character. -/
  | code {x y z w : Char} : c.val < 0x20 → hexValue4? x y z w = some c.toNat →
    Escaped c ['\\', 'u', x, y, z, w]
  /-- The character itself. -/
  | plain : c ≠ '"' → c ≠ '\\' → ¬ c.val < 0x20 → Escaped c [c]

theorem hexValue4?_hexDigits : ∀ n < 0x20, ∃ x y z w, hexDigits 4 n = [x, y, z, w] ∧
    hexValue4? x y z w = some n := by
  intro n hn
  have hvalue : hexValue4? (Nat.digitChar (n / 16 / 16 / 16 % 16))
      (Nat.digitChar (n / 16 / 16 % 16)) (Nat.digitChar (n / 16 % 16)) (Nat.digitChar (n % 16)) =
      some n := by
    revert n
    decide
  exact ⟨_, _, _, _, rfl, hvalue⟩

/-- **Every character is written in one of the three ways.** -/
theorem escaped_escapeChar (c : Char) : Escaped c (escapeChar c) := by
  unfold escapeChar
  split
  next h => exact .letter (by decide) (by subst h; decide)
  split
  next h => exact .letter (by decide) (by subst h; decide)
  split
  next h => exact .letter (by decide) (by subst h; decide)
  split
  next h => exact .letter (by decide) (by subst h; decide)
  split
  next h => exact .letter (by decide) (by subst h; decide)
  split
  next h => exact .letter (by decide) (by subst h; decide)
  split
  next h => exact .letter (by decide) (by subst h; decide)
  split
  next h =>
    obtain ⟨x, y, z, w, hdigits, hvalue⟩ := hexValue4?_hexDigits c.toNat h
    rw [hdigits]
    exact .code h hvalue
  next hquote hbackslash _ _ _ _ _ h => exact .plain hquote hbackslash h

variable {c : Char} {spelling : List Char}

theorem Escaped.length_pos (h : Escaped c spelling) : 0 < spelling.length := by
  cases h <;> simp

theorem not_control_of_isSome_hexValue? {d : Char} (h : (hexValue? d).isSome) :
    ¬ d.val < 0x20 := by
  intro hd
  have hall : ∀ n < 0x20, hexValue? (Char.ofNat n) = none := by decide
  have hnone := hall d.toNat hd
  rw [Char.ofNat_toNat] at hnone
  simp [hnone] at h

/-- A spelling has no control character in it. -/
theorem Escaped.not_control (h : Escaped c spelling) : ∀ d ∈ spelling, ¬ d.val < 0x20 := by
  cases h with
  | letter he hc =>
    have hall : ∀ e ∈ ['"', '\\', 'b', 'f', 'n', 'r', 't'], ¬ e.val < 0x20 := by simp
    intro d hd
    rcases List.mem_cons.1 hd with rfl | hd
    · decide
    · rw [List.mem_singleton.1 hd]
      exact hall _ he
  | @code x y z w hlt hvalue =>
    have hdigits : (hexValue? x).isSome ∧ (hexValue? y).isSome ∧ (hexValue? z).isSome ∧
        (hexValue? w).isSome := by
      simp only [hexValue4?, Option.bind_eq_bind, Option.bind_eq_some_iff] at hvalue
      obtain ⟨a, ha, b, hb, c, hc, d, hd, -⟩ := hvalue
      simp [ha, hb, hc, hd]
    intro d hd
    simp only [List.mem_cons, List.not_mem_nil, or_false] at hd
    rcases hd with rfl | rfl | rfl | rfl | rfl | rfl
    · decide
    · decide
    · exact not_control_of_isSome_hexValue? hdigits.1
    · exact not_control_of_isSome_hexValue? hdigits.2.1
    · exact not_control_of_isSome_hexValue? hdigits.2.2.1
    · exact not_control_of_isSome_hexValue? hdigits.2.2.2
  | plain hquote hbackslash hlt =>
    intro d hd
    rwa [List.mem_singleton.1 hd]

/-! ### Reading on from a spelling -/

theorem splitText?_letter {e : Char} (he : e ∈ ['"', '\\', '/', 'b', 'f', 'n', 'r', 't'])
    (cs : List Char) : splitText? ('\\' :: e :: cs) =
      (splitText? cs).map fun (spelling, rest) => ('\\' :: e :: spelling, rest) := by
  have hu : e ≠ 'u' := by rintro rfl; simp at he
  rw [splitText?.eq_4, if_pos (List.contains_iff_mem.2 he)]
  exact fun _ _ _ _ _ h _ => hu h

theorem splitText?_plain (hquote : c ≠ '"') (hbackslash : c ≠ '\\') (hcontrol : ¬ c.val < 0x20)
    (cs : List Char) :
    splitText? (c :: cs) = (splitText? cs).map fun (spelling, rest) => (c :: spelling, rest) := by
  simp [splitText?, hbackslash, hcontrol]

/-- The end of a string is not inside a spelling. -/
theorem Escaped.splitText? (h : Escaped c spelling) (cs : List Char) :
    splitText? (spelling ++ cs) =
      (Json.splitText? cs).map fun (rest, after) => (spelling ++ rest, after) := by
  cases h with
  | @letter e he hc =>
    refine splitText?_letter ?_ cs
    simp only [List.mem_cons] at he ⊢
    tauto
  | code hlt hvalue => simp [Json.splitText?, hvalue]
  | plain hquote hbackslash hlt => exact splitText?_plain hquote hbackslash hlt cs

/-- A spelling stands for its character. -/
theorem Escaped.decodeWithin (h : Escaped c spelling) (bound : Nat) (cs : List Char) :
    decodeWithin (bound + 1) (spelling ++ cs) =
      (Json.decodeWithin bound cs).map (c :: ·) := by
  cases h with
  | @letter e he hc =>
    have hu : e ≠ 'u' := by rintro rfl; simp at he
    subst hc
    rw [List.cons_append, List.cons_append, List.nil_append, Json.decodeWithin.eq_4]
    exact fun _ _ _ _ _ h _ => hu h
  | @code x y z w hlt hvalue =>
    have hcode : c.toNat < 0x20 := hlt
    have hhigh : isHighSurrogate c.toNat = false := by
      simp only [isHighSurrogate, Bool.and_eq_false_imp, decide_eq_true_eq, decide_eq_false_iff_not]
      omega
    have hlow : isLowSurrogate c.toNat = false := by
      simp only [isLowSurrogate, Bool.and_eq_false_imp, decide_eq_true_eq, decide_eq_false_iff_not]
      omega
    simp [Json.decodeWithin, hvalue, hhigh, hlow]
  | plain hquote hbackslash hlt => simp [Json.decodeWithin, hbackslash]

/-! ### Whole texts -/

/-- **A reader finds the end of a quoted text**, and leaves its escapes as they are. -/
theorem splitText?_escape (s rest : List Char) :
    splitText? (s.flatMap escapeChar ++ '"' :: rest) = some (s.flatMap escapeChar, rest) := by
  induction s with
  | nil => rfl
  | cons c s ih =>
    rw [List.flatMap_cons, List.append_assoc, (escaped_escapeChar c).splitText?, ih]
    rfl

theorem decodeWithin_escape {bound : Nat} (s : List Char) (hbound : s.length ≤ bound) :
    decodeWithin bound (s.flatMap escapeChar) = some s := by
  induction s generalizing bound with
  | nil => cases bound <;> rfl
  | cons c s ih =>
    obtain ⟨bound, rfl⟩ : ∃ n, bound = n + 1 := Nat.exists_eq_add_one.2 (by simp at hbound; omega)
    rw [List.flatMap_cons, (escaped_escapeChar c).decodeWithin,
      ih (by simpa using hbound)]
    rfl

theorem length_le_length_escape (s : List Char) : s.length ≤ (s.flatMap escapeChar).length := by
  induction s with
  | nil => exact Nat.le_refl 0
  | cons c s ih =>
    have hpos := (escaped_escapeChar c).length_pos
    rw [List.flatMap_cons, List.length_append, List.length_cons]
    omega

/-- **What a reader finds stands for the text that was quoted.** -/
theorem decodeText?_escape (s : String) : decodeText? (s.toList.flatMap escapeChar) = some s := by
  rw [decodeText?, decodeWithin_escape _ (length_le_length_escape _), Option.map_some,
    String.ofList_toList]

/-- A quoted text has no control character in it. -/
theorem not_control_quote (s : String) : ∀ d ∈ (quote s).toList, ¬ d.val < 0x20 := by
  intro d hd
  have hd : d = '"' ∨ d ∈ s.toList.flatMap escapeChar := by
    simp only [quote, String.toList_ofList, List.mem_append, List.mem_cons, List.not_mem_nil,
      or_false] at hd
    rcases hd with (hd | hd) | hd
    · exact .inl hd
    · exact .inr hd
    · exact .inl hd
  rcases hd with rfl | hd
  · decide
  · obtain ⟨c, -, hd⟩ := List.mem_flatMap.1 hd
    exact (escaped_escapeChar c).not_control d hd

end Json

end RowSieve

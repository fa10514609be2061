import Mathlib.Data.List.DropRight
import Mathlib.Tactic.ByContra
import RowSieve.Text.Line

/-!
# Lines of an input

Cutting an input into lines goes on where a line ends: the lines of an input that is `Finished`,
and of whatever comes after it, are the lines of both (`linesFrom_append`).  Every input is a
finished one and a line that is not (`finished_append_unfinished`).

A text of one line is one line of bytes: the byte of a newline stands for nothing else
(`newline_not_mem_utf8`), and what is read from the bytes of a text is the text
(`decodeBytes?_eq_some_iff`).
-/

namespace RowSieve

/-! ### Bytes of texts -/

/-- The bytes of a text. -/
def utf8 (s : String) : List UInt8 := s.toUTF8.data.toList

theorem utf8_eq_flatMap (s : String) : utf8 s = s.toList.flatMap String.utf8EncodeChar := by
  obtain ⟨cs, rfl⟩ := s.exists_eq_ofList
  simp [utf8, List.utf8Encode]

@[simp] theorem utf8_append (s t : String) : utf8 (s ++ t) = utf8 s ++ utf8 t := by
  simp [utf8_eq_flatMap]

/-- What is read from the bytes of a text is the text. -/
theorem decodeBytes?_eq_some_iff {bytes : List UInt8} {s : String} :
    decodeBytes? bytes = some s ↔ bytes = utf8 s := by
  unfold decodeBytes? String.fromUTF8? utf8
  constructor
  · intro h
    split at h
    next hvalid =>
      cases h
      simp [String.fromUTF8]
    next => cases h
  · rintro rfl
    have hvalid : (ByteArray.mk s.toUTF8.data.toList.toArray).IsValidUTF8 := by
      simpa using s.isValidUTF8
    rw [dif_pos hvalid]
    rfl

/-- A byte below 128 stands for the character of its number, and for nothing else. -/
theorem mem_utf8EncodeChar_iff {b : UInt8} (hb : b.toNat < 128) {c : Char} :
    b ∈ String.utf8EncodeChar c ↔ c.toNat = b.toNat := by
  constructor
  · intro hmem
    by_contra hne
    -- A byte of a longer code has its first bit set.
    have hbyte : ∀ n : Nat, n % 256 ≠ b.toNat → b ≠ UInt8.ofNat n := by
      rintro n hn h
      exact hn (by simpa using (congrArg UInt8.toNat h).symm)
    have hne : c.val.toNat ≠ b.toNat := hne
    simp only [String.utf8EncodeChar] at hmem
    generalize c.val.toNat = n at hne hmem
    split_ifs at hmem <;> simp only [List.mem_cons, List.not_mem_nil, or_false] at hmem
    · exact hbyte _ (by omega) hmem
    · rcases hmem with h | h
      all_goals exact hbyte _ (by omega) h
    · rcases hmem with h | h | h
      all_goals exact hbyte _ (by omega) h
    · rcases hmem with h | h | h | h
      all_goals exact hbyte _ (by omega) h
  · intro h
    have hle : c.val.toNat ≤ 0x7f := by
      have : c.val.toNat = b.toNat := h
      omega
    rw [String.utf8EncodeChar, if_pos hle, List.mem_singleton, show c.val.toNat = b.toNat from h,
      UInt8.ofNat_toNat]

theorem mem_utf8_iff {b : UInt8} (hb : b.toNat < 128) {s : String} :
    b ∈ utf8 s ↔ ∃ c ∈ s.toList, c.toNat = b.toNat := by
  simp only [utf8_eq_flatMap, List.mem_flatMap, mem_utf8EncodeChar_iff hb]

/-- A text of one line has no byte of a newline. -/
theorem newline_not_mem_utf8 {s : String} (h : '\n' ∉ s.toList) : (10 : UInt8) ∉ utf8 s := by
  rw [mem_utf8_iff (by decide)]
  rintro ⟨c, hc, hcode⟩
  have hnewline : c = '\n' := Char.toNat_inj.1 hcode
  exact h (hnewline ▸ hc)

/-! ### Cutting an input into lines -/

/-- The last line of the input ends with its newline. -/
def Finished (input : List UInt8) : Prop := ∀ b ∈ input.getLast?, b = 10

/-- What stands after the last newline of the input. -/
def unfinished (input : List UInt8) : List UInt8 := input.rtakeWhile (· ≠ 10)

/-- What stands up to the last newline of the input. -/
def finished (input : List UInt8) : List UInt8 := input.rdropWhile (· ≠ 10)

theorem finished_append_unfinished (input : List UInt8) :
    finished input ++ unfinished input = input :=
  List.rdropWhile_append_rtakeWhile

theorem finished_finished (input : List UInt8) : Finished (finished input) := by
  intro b hb
  obtain ⟨hne, rfl⟩ := List.mem_getLast?_eq_getLast hb
  exact by_contra fun hlast => List.rdropWhile_last_not _ _ hne (decide_eq_true hlast)

theorem newline_not_mem_unfinished (input : List UInt8) : (10 : UInt8) ∉ unfinished input := by
  intro h
  simpa using List.mem_rtakeWhile_imp h

theorem exists_splitLines_eq_cons {input : List UInt8} (h : input ≠ []) :
    ∃ line lines, splitLines input = line :: lines := by
  obtain ⟨b, bs, rfl⟩ := List.exists_cons_of_ne_nil h
  simp only [splitLines]
  split
  · exact ⟨_, _, rfl⟩
  · split <;> exact ⟨_, _, rfl⟩

/-- **Cutting goes on where a line ends.** -/
theorem splitLines_append {input : List UInt8} (h : Finished input) (rest : List UInt8) :
    splitLines (input ++ rest) = splitLines input ++ splitLines rest := by
  induction input with
  | nil => rfl
  | cons b bs ih =>
    have hbs : Finished bs := fun x hx => h x (List.mem_getLast?_cons hx)
    by_cases hb : b = 10
    · simp only [List.cons_append, splitLines, if_pos hb, ih hbs]
    · have hne : bs ≠ [] := by
        rintro rfl
        exact hb (h b rfl)
      obtain ⟨line, lines, hlines⟩ := exists_splitLines_eq_cons hne
      simp only [List.cons_append, splitLines, if_neg hb, ih hbs, hlines]

/-- A line with its newline. -/
theorem splitLines_concat {line : List UInt8} (h : 10 ∉ line) :
    splitLines (line ++ [10]) = [line ++ [10]] := by
  induction line with
  | nil => rfl
  | cons b bs ih =>
    rw [List.mem_cons, not_or] at h
    simp only [List.cons_append, splitLines, if_neg (Ne.symm h.1), ih h.2]

/-- A line without a newline. -/
theorem splitLines_of_not_mem {line : List UInt8} (h : 10 ∉ line) (hne : line ≠ []) :
    splitLines line = [line] := by
  induction line with
  | nil => exact absurd rfl hne
  | cons b bs ih =>
    rw [List.mem_cons, not_or] at h
    cases bs with
    | nil => simp [splitLines, Ne.symm h.1]
    | cons b' bs =>
      simp only [splitLines.eq_2 b, if_neg (Ne.symm h.1), ih h.2 (List.cons_ne_nil _ _)]

/-! ### Numbered lines -/

/-- The lines of an input, the first one under a number. -/
def linesFrom (number : Nat) (input : List UInt8) : List Line :=
  ((splitLines input).zipIdx number).map fun line => ⟨line.2, decodeBytes? line.1⟩

theorem linesFrom_append {input : List UInt8} (h : Finished input) (number : Nat)
    (rest : List UInt8) :
    linesFrom number (input ++ rest) =
      linesFrom number input ++ linesFrom (number + (splitLines input).length) rest := by
  rw [linesFrom, splitLines_append h, List.zipIdx_append, List.map_append]
  rfl

theorem linesFrom_concat {line : List UInt8} (h : 10 ∉ line) (number : Nat) :
    linesFrom number (line ++ [10]) = [⟨number, decodeBytes? (line ++ [10])⟩] := by
  rw [linesFrom, splitLines_concat h]
  rfl

theorem linesFrom_of_not_mem {line : List UInt8} (h : 10 ∉ line) (hne : line ≠ []) (number : Nat) :
    linesFrom number line = [⟨number, decodeBytes? line⟩] := by
  rw [linesFrom, splitLines_of_not_mem h hne]
  rfl

/-- The lines of an input, up to its unfinished line and from there. -/
theorem linesOf_eq_append (input more : List UInt8) :
    linesOf (input ++ more) = linesFrom 1 (finished input) ++
      linesFrom (1 + (splitLines (finished input)).length) (unfinished input ++ more) := by
  have hsplit : input ++ more = finished input ++ (unfinished input ++ more) := by
    rw [← List.append_assoc, finished_append_unfinished]
  rw [hsplit]
  exact linesFrom_append (finished_finished input) 1 _

end RowSieve

import Mathlib.Data.List.Forall2
import RowSieve.Record.Fields

/-!
# Fields that are written into a line

A field can be written between quotes, with the quotes inside it doubled, or as it is if it holds no
delimiter and does not begin with a quote (`FieldSpelling`).  However its fields are written, a line
is taken apart into these fields again (`fieldsOf?_intercalate`).

Taking a line apart is reading one character after the other, with what the field has so far.  There
is one lemma for each way through a field, which says what the field has at its end:
`splitFrom_doubleQuotes` inside quotes, `splitFrom_of_notMem` outside, and
`FieldSpelling.splitFrom_eq` for the field as a whole.
-/

namespace RowSieve

/-- A text with its quotes doubled. -/
def doubleQuotes (cs : List Char) : List Char :=
  cs.flatMap fun c => if c = '"' then ['"', '"'] else [c]

/-- A way to write a field into a line. -/
inductive FieldSpelling (delimiter : Char) (field : String) : List Char → Prop where
  /-- Between quotes, any field can be written. -/
  | quoted : FieldSpelling delimiter field ('"' :: doubleQuotes field.toList ++ ['"'])
  /-- As it is, a field must not look like several fields or like one between quotes. -/
  | plain : delimiter ∉ field.toList → field.toList.head? ≠ some '"' →
    FieldSpelling delimiter field field.toList

variable {delimiter : Char} {field : String} {taken cs rest w : List Char}

/-! ### Through a field -/

/-- Inside quotes, the text is added to the field, and the quote behind it closes. -/
theorem splitFrom_doubleQuotes (hrest : rest.head? ≠ some '"') (taken cs : List Char) :
    splitFrom delimiter true taken (doubleQuotes cs ++ '"' :: rest) =
      splitFrom delimiter false (cs.reverse ++ taken) rest := by
  induction cs generalizing taken with
  | nil =>
    cases rest with
    | nil => simp [doubleQuotes, splitFrom]
    | cons c rest =>
      have hc : c ≠ '"' := by simpa using hrest
      simp [doubleQuotes, splitFrom, hc]
  | cons c cs ih =>
    have hcons : doubleQuotes (c :: cs) =
        (if c = '"' then ['"', '"'] else [c]) ++ doubleQuotes cs := rfl
    have hreverse : (c :: cs).reverse ++ taken = cs.reverse ++ c :: taken := by simp
    rw [hcons, hreverse, ← ih (c :: taken), List.append_assoc]
    by_cases hc : c = '"'
    · simp [splitFrom, hc]
    · simp [splitFrom, hc]

/-- Outside quotes, a text without delimiters is added to the field, if no quote in it opens. -/
theorem splitFrom_of_notMem (hcs : delimiter ∉ cs) (hopen : taken = [] → cs.head? ≠ some '"') :
    splitFrom delimiter false taken (cs ++ rest) =
      splitFrom delimiter false (cs.reverse ++ taken) rest := by
  induction cs generalizing taken with
  | nil => rfl
  | cons c cs ih =>
    obtain ⟨hc, hcs⟩ : delimiter ≠ c ∧ delimiter ∉ cs := by simpa using hcs
    have hreverse : (c :: cs).reverse ++ taken = cs.reverse ++ c :: taken := by simp
    rw [hreverse, ← ih hcs (by simp), List.cons_append]
    cases taken with
    | nil =>
      have hquote : c ≠ '"' := by simpa using hopen rfl
      simp [splitFrom, hquote, hc.symm]
    | cons b taken => simp [splitFrom, hc.symm]

/-- A delimiter outside quotes ends the field. -/
theorem splitFrom_delimiter (hdelimiter : delimiter ≠ '"') (taken rest : List Char) :
    splitFrom delimiter false taken (delimiter :: rest) =
      (splitFrom delimiter false [] rest).map (taken.reverse :: ·) := by
  cases taken <;> simp [splitFrom, hdelimiter]

/-- Behind a field that has been written, the field is known. -/
theorem FieldSpelling.splitFrom_eq (h : FieldSpelling delimiter field w)
    (hrest : rest.head? ≠ some '"') :
    splitFrom delimiter false [] (w ++ rest) =
      splitFrom delimiter false field.toList.reverse rest := by
  cases h with
  | quoted =>
    have hopen : splitFrom delimiter false []
        ('"' :: doubleQuotes field.toList ++ ['"'] ++ rest) =
        splitFrom delimiter true [] (doubleQuotes field.toList ++ '"' :: rest) := by
      simp [splitFrom]
    rw [hopen, splitFrom_doubleQuotes hrest, List.append_nil]
  | plain hcs hquote => rw [splitFrom_of_notMem hcs fun _ => hquote, List.append_nil]

/-! ### Lines -/

theorem splitFrom_intercalate (hdelimiter : delimiter ≠ '"') {fields : List String}
    {written : List (List Char)} (h : List.Forall₂ (FieldSpelling delimiter) fields written)
    (hne : fields ≠ []) :
    splitFrom delimiter false [] ([delimiter].intercalate written) =
      some (fields.map String.toList) := by
  induction h with
  | nil => exact absurd rfl hne
  | @cons field w fields written hfield hrest ih =>
    cases hrest with
    | nil =>
      have hlast : splitFrom delimiter false [] (w ++ []) = _ := hfield.splitFrom_eq (by simp)
      rw [List.append_nil] at hlast
      rw [List.intercalate_singleton, hlast]
      simp [splitFrom]
    | @cons field' w' fields written hfield' hrest =>
      rw [List.intercalate_cons_cons, List.append_assoc, List.singleton_append,
        hfield.splitFrom_eq (by simpa using hdelimiter), splitFrom_delimiter hdelimiter,
        ih (by simp), List.reverse_reverse]
      rfl

/-- **A line is taken apart into the fields that were written into it**, whatever they hold, with
each of them between quotes or, where that is possible, as it is. -/
theorem fieldsOf?_intercalate (hdelimiter : delimiter ≠ '"') {fields : List String}
    (hne : fields ≠ []) {written : List (List Char)}
    (h : List.Forall₂ (FieldSpelling delimiter) fields written) :
    fieldsOf? delimiter ([delimiter].intercalate written) = some fields := by
  rw [fieldsOf?, splitFrom_intercalate hdelimiter h hne, Option.map_some, List.map_map]
  simp [Function.comp_def]

/-- A delimiter and quotes between quotes, nothing between quotes, nothing at all, and a quote
inside a field that is written as it is. -/
theorem fieldsOf?_intercalate_mixed :
    List.Forall₂ (FieldSpelling ',') ["b,c", "", "\"hi\"", "", "x\"y"]
        ["\"b,c\"".toList, "\"\"".toList, "\"\"\"hi\"\"\"".toList, [], "x\"y".toList] ∧
      fieldsOf? ',' "\"b,c\",\"\",\"\"\"hi\"\"\",,x\"y".toList =
        some ["b,c", "", "\"hi\"", "", "x\"y"] := by
  have h : List.Forall₂ (FieldSpelling ',') ["b,c", "", "\"hi\"", "", "x\"y"]
      ["\"b,c\"".toList, "\"\"".toList, "\"\"\"hi\"\"\"".toList, [], "x\"y".toList] := by
    refine .cons .quoted (.cons .quoted (.cons .quoted (.cons ?_ (.cons ?_ .nil))))
    · exact .plain (by decide) (by decide)
    · exact .plain (by decide) (by decide)
  exact ⟨h, fieldsOf?_intercalate (by decide) (by decide) h⟩

end RowSieve

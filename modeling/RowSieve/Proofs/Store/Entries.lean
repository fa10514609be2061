import RowSieve.Proofs.Json.Documents
import RowSieve.Proofs.Text.Lines
import RowSieve.Store.Basic

/-!
# Entries are read as they are written

The line of an entry is a JSON document on a line of its own, whatever the key and the value are,
and the entry is read from it (`Entry.ofLine?_text`).
-/

namespace RowSieve

namespace Entry

open Json

/-- The document on the line of an entry. -/
def document (e : Entry) : Json :=
  .object [(['k', 'e', 'y'], .text (e.key.toList.flatMap escapeChar)),
    (['v', 'a', 'l', 'u', 'e'], .text (e.value.toList.flatMap escapeChar))]

theorem ofJson?_document (e : Entry) : ofJson? e.document = some e := by
  have hkey : decodeText? ['k', 'e', 'y'] = some "key" := rfl
  have hvalue : decodeText? ['v', 'a', 'l', 'u', 'e'] = some "value" := rfl
  simp [document, ofJson?, decodeNames?, hkey, hvalue, onlyText?, text?, decodeText?_escape]

/-- The document of an entry as it is written. -/
def text (e : Entry) : String :=
  "\x7b\"key\":" ++ quote e.key ++ ",\"value\":" ++ quote e.value ++ "\x7d"

theorem line_eq (e : Entry) : e.line = e.text ++ "\n" := by
  simp [line, text, String.append_assoc]

theorem toList_text (e : Entry) :
    e.text.toList = '\x7b' :: '"' :: 'k' :: 'e' :: 'y' :: '"' :: ':' :: ((quote e.key).toList ++
      ',' :: '"' :: 'v' :: 'a' :: 'l' :: 'u' :: 'e' :: '"' :: ':' :: ((quote e.value).toList ++
        ['\x7d'])) := by
  simp [text]

/-- A line with an entry on it is not blank. -/
theorem allBlank_append_text (before after : List Char) (e : Entry) :
    Text.allBlank (before ++ (e.text.toList ++ after)) = false := by
  rw [toList_text]
  simp [Text.allBlank, Text.isBlank]

/-- The newline of an entry is written last. -/
theorem append_utf8_line (log : List UInt8) (e : Entry) :
    log ++ utf8 e.line = (log ++ utf8 e.text) ++ [10] := by
  rw [line_eq, utf8_append, List.append_assoc]
  rfl

theorem newline_not_mem_text (e : Entry) : '\n' ∉ e.text.toList := by
  have hquote : ∀ s : String, '\n' ∉ (quote s).toList := fun s hs =>
    not_control_quote s _ hs (by decide)
  simp [text, hquote]

/-- A reader finds the document of an entry where it is written. -/
theorem readValue_text (e : Entry) (bound : Nat) (rest : List Char) :
    readValue (bound + 4) (e.text.toList ++ rest) = some (e.document, rest) := by
  have hkeyName : ∀ cs, splitText? ('k' :: 'e' :: 'y' :: '"' :: cs) =
      some (['k', 'e', 'y'], cs) := by
    simp [splitText?]
  have hvalueName : ∀ cs, splitText? ('v' :: 'a' :: 'l' :: 'u' :: 'e' :: '"' :: cs) =
      some (['v', 'a', 'l', 'u', 'e'], cs) := by
    simp [splitText?]
  have hvalue := readMembers_last (hvalueName _) (readValue_quote bound e.value ('\x7d' :: rest))
  have hkey := readMembers_more (hkeyName _) (readValue_quote (bound + 1) e.key _) hvalue
  rw [toList_text]
  simp only [List.cons_append, List.append_assoc, List.nil_append]
  exact readValue_object hkey

/-- **An entry is read from its line**, whatever spaces stand around it. -/
theorem ofLine?_text {before after : List Char} (hbefore : skipSpaces before = [])
    (hafter : skipSpaces after = []) (e : Entry) :
    ofLine? (before ++ (e.text.toList ++ after)) = some e := by
  obtain ⟨bound, hbound⟩ : ∃ bound,
      (before ++ (e.text.toList ++ after)).length + 1 = bound + 4 := by
    refine ⟨(before ++ (e.text.toList ++ after)).length - 3, ?_⟩
    rw [toList_text]
    simp only [List.length_append, List.length_cons]
    omega
  have hparse : parse? (before ++ (e.text.toList ++ after)) = some e.document := by
    rw [parse?, hbound, readValue_append_of_spaces hbefore, readValue_text, Option.bind_some]
    simp [hafter]
  rw [ofLine?, hparse, Option.bind_some, ofJson?_document]

end Entry

end RowSieve

import Mathlib.Data.List.Forall2
import RowSieve.Layout
import RowSieve.Proofs.Json.Numbers
import RowSieve.Proofs.Text.ByteOrder

/-!
# Rows printed as JSON are read back

`Layout.print` puts a JSON object together from parts that are written each on its own.  A reader
takes it apart at the same places, whatever stands in the names and in the texts: a quoted text
ends at its last quote, and a number ends before the comma or the brace behind it.  So the object
has one member for each cell, in the order of the cells (`Layout.exists_readMembers`), and a whole
printed row is one line that holds the number of the line and the values
(`Layout.print_json_decodes`).
-/

namespace RowSieve

namespace Layout

open Json

/-- A document stands for a value.  A double is told by the number that is written for it, and one
that is not finite by no value. -/
inductive StandsFor : Json → Value → Prop where
  /-- No value. -/
  | null : StandsFor .null .null
  /-- A truth value. -/
  | boolean {b} : StandsFor (.boolean b) (.boolean b)
  /-- A finite double. -/
  | float {x} : IsFinite x → StandsFor (.number (floatText x).toList) (.float x)
  /-- A double that is not finite. -/
  | notFinite {x} : ¬ IsFinite x → StandsFor .null (.float x)
  /-- A whole number. -/
  | integer {spelling n} : Decimal.readInt? spelling = some n.toInt →
    StandsFor (.number spelling) (.integer n)
  /-- A text. -/
  | text {spelling s} : decodeText? spelling = some s → StandsFor (.text spelling) (.text s)

/-- A member of an object has the name of a cell and stands for its value. -/
def Holds (member : List Char × Json) (cell : String × Value) : Prop :=
  decodeText? member.1 = some cell.1 ∧ StandsFor member.2 cell.2

/-- What may come after a value inside an object. -/
theorem endsNumber_cons {c : Char} (hc : c ∈ [',', '\x7d']) (rest : List Char) :
    EndsNumber (c :: rest) := by
  rintro d hd
  cases hd
  simp only [List.mem_cons, List.not_mem_nil, or_false] at hc
  rcases hc with rfl | rfl <;> decide

/-! ### One value -/

/-- **A value is read back**, if no digits come after it. -/
theorem exists_readValue_toJson (v : Value) :
    ∃ document, StandsFor document v ∧ ∀ bound rest, EndsNumber rest →
      readValue (bound + 1) (v.toJson.toList ++ rest) = some (document, rest) := by
  cases v with
  | null => exact ⟨.null, .null, fun bound rest _ => rfl⟩
  | boolean b => exact ⟨.boolean b, .boolean, fun bound rest _ => by cases b <;> rfl⟩
  | float x =>
    by_cases hx : IsFinite x
    · exact ⟨_, .float hx, fun bound rest hrest => (numeral_floatText hx).readValue bound hrest⟩
    · refine ⟨.null, .notFinite hx, fun bound rest _ => ?_⟩
      rw [Value.toJson, floatText_of_not_isFinite hx]
      rfl
  | integer n =>
    exact ⟨_, .integer (readInt?_toString n.toInt), fun bound rest hrest =>
      (numeral_toString n.toInt).readValue bound hrest⟩
  | text s =>
    exact ⟨_, .text (decodeText?_escape s), fun bound rest _ => readValue_quote bound s rest⟩

/-- A value is written without control characters. -/
theorem not_control_toJson (v : Value) : ∀ c ∈ v.toJson.toList, ¬ c.val < 0x20 := by
  cases v with
  | null => simp [Value.toJson]
  | boolean b => cases b <;> simp [Value.toJson]
  | float x =>
    by_cases hx : IsFinite x
    · exact (numeral_floatText hx).not_control
    · rw [Value.toJson, floatText_of_not_isFinite hx]
      simp
  | integer n => exact (numeral_toString n.toInt).not_control
  | text s => exact not_control_quote s

/-! ### The cells of a row -/

theorem toList_cellJson (cell : String × Value) : (cellJson cell).toList =
    '"' :: (cell.1.toList.flatMap escapeChar ++ '"' :: ':' :: cell.2.toJson.toList) := by
  simp [cellJson, quote]

/-- The members that are written for cells. -/
def membersText (cells : List (String × Value)) : List Char :=
  (",".intercalate (cells.map cellJson)).toList

theorem membersText_singleton (cell : String × Value) :
    membersText [cell] = (cellJson cell).toList := by
  simp [membersText]

theorem membersText_cons_cons (cell next : String × Value) (cells : List (String × Value)) :
    membersText (cell :: next :: cells) =
      (cellJson cell).toList ++ ',' :: membersText (next :: cells) := by
  simp [membersText]

theorem exists_membersText_cons (cell : String × Value) (cells : List (String × Value)) :
    ∃ cs, membersText (cell :: cells) = '"' :: cs := by
  cases cells with
  | nil => exact ⟨_, by rw [membersText_singleton, toList_cellJson]⟩
  | cons next cells =>
    exact ⟨_, by rw [membersText_cons_cons, toList_cellJson, List.cons_append]⟩

theorem length_le_length_membersText (cells : List (String × Value)) :
    cells.length ≤ (membersText cells).length := by
  induction cells with
  | nil => exact Nat.zero_le _
  | cons cell cells ih =>
    cases cells with
    | nil => simp [membersText_singleton, toList_cellJson]
    | cons next cells =>
      rw [membersText_cons_cons]
      simp only [List.length_append, List.length_cons] at ih ⊢
      omega

theorem holds_escape {cell : String × Value} {document : Json} (h : StandsFor document cell.2) :
    Holds (cell.1.toList.flatMap escapeChar, document) cell :=
  ⟨decodeText?_escape cell.1, h⟩

/-- **The members of a printed row are its cells**, in their order. -/
theorem exists_readMembers (cell : String × Value) (cells : List (String × Value)) :
    ∃ members, List.Forall₂ Holds members (cell :: cells) ∧ ∀ bound rest,
      readMembers (cells.length + bound + 2) (membersText (cell :: cells) ++ '\x7d' :: rest) =
        some (members, rest) := by
  induction cells generalizing cell with
  | nil =>
    obtain ⟨document, hdocument, hread⟩ := exists_readValue_toJson cell.2
    refine ⟨_, .cons (holds_escape hdocument) .nil, fun bound rest => ?_⟩
    rw [membersText_singleton, toList_cellJson]
    simp only [List.cons_append, List.append_assoc]
    exact readMembers_last (splitText?_escape _ _)
      (hread _ _ (endsNumber_cons (.tail _ (.head _)) rest))
  | cons next cells ih =>
    obtain ⟨document, hdocument, hread⟩ := exists_readValue_toJson cell.2
    obtain ⟨members, hmembers, hreadMembers⟩ := ih next
    refine ⟨_, .cons (holds_escape hdocument) hmembers, fun bound rest => ?_⟩
    rw [membersText_cons_cons, toList_cellJson, List.length_cons,
      Nat.add_right_comm cells.length 1 bound]
    simp only [List.cons_append, List.append_assoc]
    exact readMembers_more (splitText?_escape _ _) (hread _ _ (endsNumber_cons (.head _) _))
      (hreadMembers bound rest)

theorem exists_readValue_members (cells : List (String × Value)) :
    ∃ members, List.Forall₂ Holds members cells ∧ ∀ bound rest,
      readValue (cells.length + bound + 2) ('\x7b' :: (membersText cells ++ '\x7d' :: rest)) =
        some (.object members, rest) := by
  cases cells with
  | nil => exact ⟨[], .nil, fun bound rest => by simp [membersText, readValue, skipSpaces, isSpace]⟩
  | cons cell cells =>
    obtain ⟨members, hmembers, hread⟩ := exists_readMembers cell cells
    obtain ⟨cs, hcs⟩ := exists_membersText_cons cell cells
    refine ⟨members, hmembers, fun bound rest => ?_⟩
    have hobject := hread bound rest
    rw [hcs] at hobject ⊢
    rw [List.length_cons, Nat.add_right_comm cells.length 1 bound]
    exact readValue_object hobject

/-- The members are written without control characters. -/
theorem not_control_membersText (cells : List (String × Value)) :
    ∀ c ∈ membersText cells, ¬ c.val < 0x20 := by
  have hcell : ∀ cell : String × Value, ∀ c ∈ (cellJson cell).toList, ¬ c.val < 0x20 := by
    intro cell
    rw [cellJson, String.toList_append, String.toList_append]
    simp only [List.forall_mem_append]
    exact ⟨⟨not_control_quote cell.1, by simp⟩, not_control_toJson cell.2⟩
  induction cells with
  | nil => simp [membersText]
  | cons cell cells ih =>
    cases cells with
    | nil =>
      rw [membersText_singleton]
      exact hcell cell
    | cons next cells =>
      rw [membersText_cons_cons, List.forall_mem_append, List.forall_mem_cons]
      exact ⟨hcell cell, by decide, ih⟩

/-! ### Whole rows -/

variable (columns : List String) (line : Nat) (row : Row)

theorem toList_print_json : (print json columns line row).toList =
    '\x7b' :: '"' :: 'l' :: 'i' :: 'n' :: 'e' :: '"' :: ':' :: ((toString (line : Int)).toList ++
      ',' :: '"' :: 'v' :: 'a' :: 'l' :: 'u' :: 'e' :: 's' :: '"' :: ':' :: '\x7b' ::
        (membersText (cells columns row) ++ ['\x7d', '\x7d'])) := by
  rw [toList_toString_natCast]
  simp [print, membersText]

/-- **A printed row is a document with the number of the line and the cells.** -/
theorem exists_parse?_print_json : ∃ number members,
    parse? (print json columns line row).toList =
      some (.object [("line".toList, .number number), ("values".toList, .object members)]) ∧
    Decimal.readInt? number = some (line : Int) ∧
    List.Forall₂ Holds members (cells columns row) := by
  obtain ⟨members, hmembers, hread⟩ := exists_readValue_members (cells columns row)
  refine ⟨_, members, ?_, readInt?_toString line, hmembers⟩
  have hline : ∀ cs, splitText? ('l' :: 'i' :: 'n' :: 'e' :: '"' :: cs) =
      some (['l', 'i', 'n', 'e'], cs) := by
    simp [splitText?]
  have hvalues : ∀ cs, splitText? ('v' :: 'a' :: 'l' :: 'u' :: 'e' :: 's' :: '"' :: cs) =
      some (['v', 'a', 'l', 'u', 'e', 's'], cs) := by
    simp [splitText?]
  obtain ⟨bound, hbound⟩ : ∃ bound, (print json columns line row).toList.length + 1 =
      (cells columns row).length + bound + 2 + 3 := by
    have hlength := length_le_length_membersText (cells columns row)
    refine ⟨(print json columns line row).toList.length - (cells columns row).length - 4, ?_⟩
    rw [toList_print_json]
    simp only [List.length_append, List.length_cons]
    omega
  have hlast := readMembers_last (hvalues _) (hread bound ['\x7d'])
  have hfirst := readMembers_more (hline _) ((numeral_toString line).readValue _
    (endsNumber_cons (.head _) _)) hlast
  rw [parse?, hbound, toList_print_json, readValue_object hfirst]
  rfl

/-- **A row printed as JSON is one line that holds the number of the line and the row.**  The
members have the names of the columns, in their order, and stand for the values of the row; if
there are no columns, they have the names that the row has, each of them once, in the order of
their bytes. -/
theorem print_json_decodes :
    (∀ c ∈ (print json columns line row).toList, ¬ c.val < 0x20) ∧
    (∃ number members,
      parse? (print json columns line row).toList =
        some (.object [("line".toList, .number number), ("values".toList, .object members)]) ∧
      Decimal.readInt? number = some (line : Int) ∧
      List.Forall₂ (fun member name => decodeText? member.1 = some name ∧
          StandsFor member.2 ((row.get? name).getD .null))
        members (if columns = [] then row.names else columns)) ∧
    row.names.Pairwise (fun a b => utf8 a < utf8 b) ∧
    ∀ name, name ∈ row.names ↔ (row.get? name).isSome := by
  refine ⟨?_, ?_, ?_, fun name => ?_⟩
  · rw [toList_print_json]
    have hline := (numeral_toString line).not_control
    have hcells := not_control_membersText (cells columns row)
    simpa [or_imp, forall_and] using And.intro hline hcells
  · obtain ⟨number, members, hparse, hnumber, hmembers⟩ :=
      exists_parse?_print_json columns line row
    refine ⟨number, members, hparse, hnumber, ?_⟩
    simp only [cells, List.isEmpty_iff] at hmembers
    exact List.forall₂_map_right_iff.1 hmembers
  · exact List.pairwise_map.2 (row.sorted.imp fun h => utf8_lt_utf8 h)
  · rw [Dictionary.mem_names_iff, Option.isSome_iff_ne_none]

/-- Quotes, braces and newlines in a text do not end it. -/
example : print json ["b", "a"] 2 (.ofList [("a", .integer 1), ("b", .text "\"\x7d,\n")]) =
    "\x7b\"line\":2,\"values\":\x7b\"b\":\"\\\"\x7d,\\n\",\"a\":1\x7d\x7d" := by decide +kernel

end Layout

end RowSieve

import Mathlib.Data.List.Zip
import RowSieve.Proofs.Text.Lines
import RowSieve.Record.Table

/-!
# Every line counts

A table has one entry for each line behind its header that is not blank, and the entry bears the
number of the line (`Table.read_accounts`).  Lines are those of the bytes of the input
(`CutInto`), so that blank lines and lines that are no text are counted like any others.  A line is a
record exactly if it is text and has as many fields as the header.

The header is the first line that is not blank; it is said to be missing exactly if all lines are
blank.
-/

namespace RowSieve

/-! ### Numbers of lines -/

/-- The number of the line that an error is about. -/
def LineError.line : LineError → Nat
  | fieldCount line _ _ => line
  | openQuote line => line
  | notText line => line

/-- The number of the line that an entry of a table stands for. -/
def entryLine : Except LineError Record → Nat
  | .ok r => r.line
  | .error e => e.line

/-! ### Lines of bytes -/

variable {input : List UInt8} {lines : List (List UInt8)}

/-- Lines under their numbers, the first of them under a given one. -/
def numbered (number : Nat) (lines : List (List UInt8)) : List Line :=
  (lines.zipIdx number).map fun line => ⟨line.2, decodeBytes? line.1⟩

@[simp] theorem numbered_nil (number : Nat) : numbered number [] = [] := rfl

@[simp] theorem numbered_cons (number : Nat) (line : List UInt8) (lines : List (List UInt8)) :
    numbered number (line :: lines) = ⟨number, decodeBytes? line⟩ :: numbered (number + 1) lines :=
  rfl

/-! ### Blank lines -/

/-- The line is text, and nothing but blanks. -/
def BlankLine (line : List UInt8) : Prop :=
  ∃ s, line = utf8 s ∧ ∀ c ∈ s.toList, Text.isBlank c = true

/-- The characters that end a line are blank, so that it does not matter if they are taken off. -/
theorem allBlank_trimLineEnd (cs : List Char) :
    Text.allBlank (trimLineEnd cs) = true ↔ ∀ c ∈ cs, Text.isBlank c = true := by
  have hends : ∀ c : Char, (c = '\n' || c = '\r') = true → Text.isBlank c = true := by
    intro c hc
    rcases Bool.or_eq_true_iff.1 hc with h | h
    all_goals
      rw [of_decide_eq_true h]
      decide
  simp only [Text.allBlank, trimLineEnd, List.all_eq_true, List.mem_reverse]
  constructor
  · intro h c hc
    rw [← List.mem_reverse, ← List.takeWhile_append_dropWhile (l := cs.reverse), List.mem_append]
      at hc
    rcases hc with hc | hc
    · exact hends c (List.mem_takeWhile_imp (p := fun c => c = '\n' || c = '\r') hc)
    · exact h c hc
  · intro h c hc
    exact h c (List.mem_reverse.1 ((List.dropWhile_sublist _).subset hc))

theorem blankLine_iff {line : List UInt8} :
    BlankLine line ↔ ∃ s, decodeBytes? line = some s ∧
      Text.allBlank (trimLineEnd s.toList) = true := by
  simp only [BlankLine, decodeBytes?_eq_some_iff, allBlank_trimLineEnd]

instance (line : List UInt8) : Decidable (BlankLine line) :=
  decidable_of_iff
    ((decodeBytes? line).any (fun s => Text.allBlank (trimLineEnd s.toList)) = true) <| by
    rw [blankLine_iff, Option.any_eq_true]

/-! ### The header -/

/-- The line is a header with these names. -/
def HeaderOf (delimiter : Char) (line : List UInt8) (names : List String) : Prop :=
  ∃ s fields, line = utf8 s ∧ fieldsOf? delimiter (trimLineEnd s.toList) = some fields ∧
    names = fields.map Text.trim

variable {delimiter : Char} {line : List UInt8} {number : Nat} {later : List Line}
  {names : List String}

theorem readHeader_of_blank (h : BlankLine line) :
    readHeader delimiter (⟨number, decodeBytes? line⟩ :: later) = readHeader delimiter later := by
  obtain ⟨s, hs, hblank⟩ := blankLine_iff.1 h
  simp only [readHeader, hs, hblank, if_true]

theorem readHeader_of_not_blank_eq_ok_iff (h : ¬ BlankLine line) {rest : List Line} :
    readHeader delimiter (⟨number, decodeBytes? line⟩ :: later) = .ok (names, rest) ↔
      HeaderOf delimiter line names ∧ rest = later := by
  simp only [HeaderOf, ← decodeBytes?_eq_some_iff]
  rw [blankLine_iff] at h
  cases hs : decodeBytes? line with
  | none => simp [readHeader]
  | some s =>
    have hblank : Text.allBlank (trimLineEnd s.toList) = false := by
      simpa [hs] using h
    simp only [readHeader, hblank, Bool.false_eq_true, if_false]
    cases hfields : fieldsOf? delimiter (trimLineEnd s.toList) with
    | none => simp [hfields]
    | some fields => simp [hfields, eq_comm]

/-- The header of lines stands on the line of this number, and `rest` comes behind it. -/
def Headed (delimiter : Char) (lines : List (List UInt8)) (number : Nat) (names : List String)
    (rest : List (List UInt8)) : Prop :=
  ∃ blanks first, lines = blanks ++ first :: rest ∧ number = blanks.length + 1 ∧
    (∀ line ∈ blanks, BlankLine line) ∧ ¬ BlankLine first ∧ HeaderOf delimiter first names

theorem headed_cons_of_blank {rest : List (List UInt8)} (h : BlankLine line) :
    Headed delimiter (line :: lines) (number + 1) names rest ↔
      Headed delimiter lines number names rest := by
  constructor
  · rintro ⟨blanks, first, hlines, hnumber, hblanks, hfirst, hheader⟩
    cases blanks with
    | nil =>
      cases hlines
      exact absurd h hfirst
    | cons blank blanks =>
      cases hlines
      exact ⟨blanks, first, rfl, by simpa using hnumber, fun l hl => hblanks l (.tail _ hl), hfirst,
        hheader⟩
  · rintro ⟨blanks, first, rfl, hnumber, hblanks, hfirst, hheader⟩
    exact ⟨line :: blanks, first, rfl, by simp [hnumber], List.forall_mem_cons.2 ⟨h, hblanks⟩,
      hfirst, hheader⟩

theorem headed_cons_of_not_blank {rest : List (List UInt8)} (h : ¬ BlankLine line) :
    Headed delimiter (line :: lines) number names rest ↔
      number = 1 ∧ HeaderOf delimiter line names ∧ rest = lines := by
  constructor
  · rintro ⟨blanks, first, hlines, hnumber, hblanks, -, hheader⟩
    cases blanks with
    | nil =>
      cases hlines
      exact ⟨hnumber, hheader, rfl⟩
    | cons blank blanks =>
      cases hlines
      exact absurd (hblanks _ (.head _)) h
  · rintro ⟨rfl, hheader, rfl⟩
    exact ⟨[], line, rfl, rfl, nofun, h, hheader⟩

/-- **The header is the first line that is not blank**, and reading goes on behind it. -/
theorem readHeader_numbered_eq_ok_iff (start : Nat) :
    readHeader delimiter (numbered start lines) = .ok (names, later) ↔
      ∃ number rest, Headed delimiter lines number names rest ∧
        later = numbered (start + number) rest := by
  induction lines generalizing start with
  | nil =>
    simp [readHeader, Headed]
  | cons line lines ih =>
    rw [numbered_cons]
    by_cases hblank : BlankLine line
    · rw [readHeader_of_blank hblank, ih]
      constructor
      · rintro ⟨number, rest, hheaded, rfl⟩
        exact ⟨number + 1, rest, (headed_cons_of_blank hblank).2 hheaded,
          congrArg (numbered · rest) (Nat.succ_add_eq_add_succ start number)⟩
      · rintro ⟨number, rest, hheaded, rfl⟩
        -- The header has a number of at least two, since a blank line comes first.
        obtain ⟨before, rfl⟩ : ∃ before, number = before + 1 := by
          obtain ⟨blanks, -, -, hnumber, -⟩ := hheaded
          exact ⟨_, hnumber⟩
        exact ⟨before, rest, (headed_cons_of_blank hblank).1 hheaded,
          congrArg (numbered · rest) (Nat.succ_add_eq_add_succ start before).symm⟩
    · rw [readHeader_of_not_blank_eq_ok_iff hblank]
      simp only [headed_cons_of_not_blank hblank]
      constructor
      · rintro ⟨hheader, rfl⟩
        exact ⟨1, lines, ⟨rfl, hheader, rfl⟩, rfl⟩
      · rintro ⟨_, _, ⟨rfl, hheader, rfl⟩, rfl⟩
        exact ⟨hheader, rfl⟩

/-- The entry stands for the line: it bears the number of the line, and it is a record exactly if the
line is text and splits into fields, as many as the table is wide. -/
structure Accounts (delimiter : Char) (width : Nat) (line : List UInt8 × Nat)
    (entry : Except LineError Record) : Prop where
  /-- It bears the number of the line. -/
  number : entryLine entry = line.2
  /-- It is a record if the line is one, and then the record on the line. -/
  ok_iff : ∀ r, entry = .ok r ↔ ∃ s, line.1 = utf8 s ∧
    fieldsOf? delimiter (trimLineEnd s.toList) = some r.fields ∧ r.fields.length = width ∧
    r.line = line.2

theorem ofLine?_of_blank (h : BlankLine line) (delimiter : Char) (width : Nat) :
    Record.ofLine? delimiter width ⟨number, decodeBytes? line⟩ = none := by
  obtain ⟨s, hs, hblank⟩ := blankLine_iff.1 h
  simp only [Record.ofLine?, hs, hblank, if_true]

theorem accounts_notText (h : decodeBytes? line = none) (delimiter : Char) (width number : Nat) :
    Accounts delimiter width (line, number) (.error (.notText number)) := by
  refine ⟨rfl, fun r => iff_of_false nofun ?_⟩
  rintro ⟨s, hline, -⟩
  rw [decodeBytes?_eq_some_iff.2 hline] at h
  cases h

theorem accounts_ofText {s : String} (h : line = utf8 s) (delimiter : Char) (width number : Nat) :
    Accounts delimiter width (line, number)
      (Record.ofText delimiter width number (trimLineEnd s.toList)) := by
  have htext : ∀ t, line = utf8 t ↔ t = s := fun t => by
    rw [← decodeBytes?_eq_some_iff, decodeBytes?_eq_some_iff.2 h, Option.some.injEq, eq_comm]
  unfold Record.ofText
  cases hfields : fieldsOf? delimiter (trimLineEnd s.toList) with
  | none => exact ⟨rfl, fun r => by simp [htext, hfields]⟩
  | some fields =>
    by_cases hwidth : fields.length = width
    · simp only [hwidth, if_true]
      refine ⟨rfl, fun r => ⟨?_, ?_⟩⟩
      · rintro ⟨⟩
        exact ⟨s, h, hfields, hwidth, rfl⟩
      · rintro ⟨t, ht, hr, -, hline⟩
        obtain ⟨n, fs⟩ := r
        obtain rfl : n = number := hline
        rw [(htext t).1 ht, hfields] at hr
        cases hr
        rfl
    · simp only [hwidth, if_false]
      refine ⟨rfl, fun r => iff_of_false nofun ?_⟩
      rintro ⟨t, ht, hr, hlength, -⟩
      rw [(htext t).1 ht, hfields] at hr
      cases hr
      exact hwidth hlength

theorem exists_accounts_of_not_blank (h : ¬ BlankLine line) (delimiter : Char) (width number : Nat) :
    ∃ entry, Record.ofLine? delimiter width ⟨number, decodeBytes? line⟩ = some entry ∧
      Accounts delimiter width (line, number) entry := by
  rw [blankLine_iff] at h
  cases hs : decodeBytes? line with
  | none => exact ⟨_, rfl, accounts_notText hs delimiter width number⟩
  | some s =>
    have hblank : Text.allBlank (trimLineEnd s.toList) = false := by
      simpa [hs] using h
    refine ⟨_, ?_, accounts_ofText (decodeBytes?_eq_some_iff.1 hs) delimiter width number⟩
    simp only [Record.ofLine?, hblank, Bool.false_eq_true, if_false]

/-- **Behind the header there is one entry for each line that is not blank**, in order. -/
theorem forall₂_accounts (delimiter : Char) (width start : Nat) (lines : List (List UInt8)) :
    List.Forall₂ (Accounts delimiter width)
      ((lines.zipIdx start).filter fun line => ¬ BlankLine line.1)
      ((numbered start lines).filterMap (Record.ofLine? delimiter width)) := by
  induction lines generalizing start with
  | nil => exact .nil
  | cons line lines ih =>
    rw [List.zipIdx_cons, numbered_cons]
    by_cases hblank : BlankLine line
    · rw [List.filter_cons_of_neg (by simpa using hblank),
        List.filterMap_cons_none (ofLine?_of_blank hblank delimiter width)]
      exact ih (start + 1)
    · obtain ⟨entry, hentry, haccounts⟩ :=
        exists_accounts_of_not_blank hblank delimiter width start
      rw [List.filter_cons_of_pos (by simpa using hblank), List.filterMap_cons_some hentry]
      exact .cons haccounts (ih (start + 1))

/-- Where the entries of a table come from: the lines behind the header. -/
theorem Table.exists_of_read {table : Table} (h : Table.read delimiter input = .ok table) :
    ∃ number rest, Headed delimiter (splitLines input) number table.header rest ∧
      table.entries = (numbered (number + 1) rest).filterMap
        (Record.ofLine? delimiter table.header.length) := by
  unfold Table.read at h
  cases hheader : readHeader delimiter (linesOf input) with
  | error e =>
    rw [hheader] at h
    cases h
  | ok header =>
    rw [hheader] at h
    obtain ⟨number, rest, hheaded, hlater⟩ := (readHeader_numbered_eq_ok_iff 1).1 hheader
    cases h
    refine ⟨number, rest, hheaded, ?_⟩
    rw [Nat.add_comm number, ← hlater]

/-- The entries of a table have different numbers, in order. -/
theorem Table.pairwise_entryLine {table : Table} (h : Table.read delimiter input = .ok table) :
    (table.entries.map entryLine).Pairwise (· < ·) := by
  obtain ⟨number, rest, -, hentries⟩ := Table.exists_of_read h
  have haccounts := forall₂_accounts delimiter table.header.length (number + 1) rest
  rw [← hentries] at haccounts
  have hnumbers : table.entries.map entryLine =
      ((rest.zipIdx (number + 1)).filter fun line => ¬ BlankLine line.1).map Prod.snd := by
    rw [← List.forall₂_eq_eq_eq, List.forall₂_map_left_iff, List.forall₂_map_right_iff]
    exact haccounts.flip.imp fun _ _ h => h.number
  rw [hnumbers]
  refine List.Pairwise.sublist (List.filter_sublist.map _) ?_
  rw [List.zipIdx_map_snd]
  exact List.pairwise_lt_range'

end RowSieve

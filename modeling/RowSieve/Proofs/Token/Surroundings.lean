import RowSieve.Proofs.Token.Lineend
import RowSieve.Proofs.Token.Spelling

/-!
# Sources in longer sources

A source may stand in a longer one, its `Surroundings`.  If what comes behind it begins a line, then
every token of the source is found in the longer one as well (`Cursor.next_within`).  Where the
source ends, the longer one goes on; a semicolon that comes first there is the next token
(`Cursor.next_within_of_rest_eq_nil`).
-/

namespace RowSieve

/-- What surrounds a source in a longer one. -/
structure Surroundings where
  /-- The tokens of what comes before. -/
  tokens : List Token
  /-- The number of bytes that come before. -/
  bytes : Nat
  /-- What comes behind. -/
  rest : List Char

/-- Nothing comes behind, or a new line that begins with a semicolon. -/
def Surroundings.Closed (w : Surroundings) : Prop :=
  w.rest = [] ∨ ∃ more, w.rest = '\n' :: ';' :: more

/-- The token with so many bytes before the source. -/
def Token.moved (bytes : Nat) (t : Token) : Token := { t with position := bytes + t.position }

theorem Token.moved_zero (t : Token) : t.moved 0 = t := by rw [moved, Nat.zero_add]

/-- The place in the longer source. -/
def Cursor.within (w : Surroundings) (c : Cursor) : Cursor :=
  ⟨w.bytes + c.position, c.rest ++ w.rest⟩

variable {w : Surroundings}

theorem Surroundings.Closed.beginsLine (hw : w.Closed) : BeginsLine w.rest := by
  rcases hw with hw | ⟨more, hw⟩ <;> simp [BeginsLine, hw]

namespace Cursor

variable {c after : Cursor} {token : Token}

theorem moveTo_within (taken rest : List Char) :
    (c.within w).moveTo taken (rest ++ w.rest) = (c.moveTo taken rest).within w := by
  simp only [moveTo, within, Nat.add_assoc]

/-- Blanks in front of something. -/
theorem skipBlanks_within (h : c.skipBlanks.rest ≠ []) :
    (c.within w).skipBlanks = c.skipBlanks.within w := by
  have hne : c.rest.dropWhile Text.isBlank ≠ [] := h
  have hdrop : (c.rest ++ w.rest).dropWhile Text.isBlank =
      c.rest.dropWhile Text.isBlank ++ w.rest := by
    rw [List.dropWhile_append, if_neg (by simpa using hne)]
  have htake : (c.rest ++ w.rest).takeWhile Text.isBlank = c.rest.takeWhile Text.isBlank := by
    have happend : (c.rest ++ w.rest).takeWhile Text.isBlank ++
        (c.rest.dropWhile Text.isBlank ++ w.rest) =
        c.rest.takeWhile Text.isBlank ++ (c.rest.dropWhile Text.isBlank ++ w.rest) := by
      rw [← hdrop, List.takeWhile_append_dropWhile, hdrop, ← List.append_assoc,
        List.takeWhile_append_dropWhile]
    exact List.append_cancel_right happend
  rw [skipBlanks, skipBlanks]
  change (c.within w).moveTo ((c.rest ++ w.rest).takeWhile _) ((c.rest ++ w.rest).dropWhile _) = _
  rw [hdrop, htake, moveTo_within]

/-- Only blanks are left where nothing comes behind them. -/
theorem isBlank_of_skipBlanks (h : c.skipBlanks.rest = []) :
    ∀ d ∈ c.rest, Text.isBlank d = true := by
  have hnil : c.rest.dropWhile Text.isBlank = [] := h
  simpa using hnil

/-- Blanks are passed whatever comes behind them. -/
theorem skipBlanks_append (position : Nat) {blanks : List Char}
    (h : ∀ d ∈ blanks, Text.isBlank d = true) (cs : List Char) :
    (⟨position, blanks ++ cs⟩ : Cursor).skipBlanks =
      (⟨position + byteLength blanks, cs⟩ : Cursor).skipBlanks := by
  simp only [skipBlanks, moveTo, List.takeWhile_append_of_pos h, List.dropWhile_append_of_pos h,
    byteLength_append, Nat.add_assoc]

theorem next_within (hw : BeginsLine w.rest) (h : c.next = (.ok token, after))
    (hk : token.kind ≠ .endOfInput) :
    (c.within w).next = (.ok (token.moved w.bytes), after.within w) := by
  obtain ⟨l, hl, -, rfl, rfl⟩ := found_of_next h hk
  have hrest : c.skipBlanks.rest ≠ [] := mt (kind_eq_endOfInput_iff h).2 hk
  have hread := Span.read_append hw hrest hl
  have hblanks := skipBlanks_within (w := w) hrest
  have hread' : Span.read (c.within w).skipBlanks.rest =
      ⟨.ok l, (Span.read c.skipBlanks.rest).taken,
        (Span.read c.skipBlanks.rest).rest ++ w.rest⟩ := by
    rw [hblanks, within, hread, Span.before, hl]
  have hnext := next_of_read hread'
  rw [hblanks, moveTo_within] at hnext
  exact hnext

/-- No parenthesis comes behind the source. -/
theorem current?_within (hw : BeginsLine w.rest) :
    (c.within w).current? = some '(' ↔ c.current? = some '(' := by
  obtain ⟨position, rest⟩ := c
  cases rest with
  | nil =>
    have hne : w.rest.head? ≠ some '(' := fun h => absurd (hw _ h) (by decide)
    simp [within, current?, hne]
  | cons d rest => rfl

theorem peekWord?_within (hw : BeginsLine w.rest) (h : c.rest ≠ []) :
    (c.within w).peekWord? = c.peekWord? := by
  obtain ⟨position, rest⟩ := c
  cases rest with
  | nil => exact absurd rfl h
  | cons d rest =>
    have hsplit := splitWord_append_of_beginsLine hw (d :: rest)
    rw [List.cons_append] at hsplit
    simp only [peekWord?, within, List.cons_append, hsplit]

/-- Behind a source that has come to its end, the semicolon is the next token. -/
theorem next_within_of_rest_eq_nil {more : List Char} (hw : w.rest = '\n' :: ';' :: more)
    (h : c.skipBlanks.rest = []) : ∃ position bytes,
      (c.within w).next = (.ok ⟨.endOfStatement, ";", position⟩, ⟨bytes, more⟩) ∧
        (c.within w).position < bytes ∧ (c.within w).skipBlanks.current? = some ';' := by
  have hblank : ∀ d ∈ c.rest ++ ['\n'], Text.isBlank d = true :=
    List.forall_mem_append.2 ⟨isBlank_of_skipBlanks h, List.forall_mem_singleton.2 (by decide)⟩
  have hrest : (c.within w).skipBlanks.rest = ';' :: more := by
    rw [within, hw, ← List.singleton_append, ← List.append_assoc, skipBlanks_append _ hblank]
    rfl
  have hread : Span.read (c.within w).skipBlanks.rest =
      ⟨.ok ⟨.endOfStatement, ";"⟩, [';'], more⟩ := by
    have hmark : mark? (';' :: more) = some (.endOfStatement, 1) := rfl
    rw [hrest, Span.read_mark hmark (by decide) (by decide)]
    simp [Span.plain]
  have hnext := next_of_read hread
  refine ⟨_, _, hnext, ?_, by rw [current?, hrest]; rfl⟩
  exact position_lt_of_next hnext (by simp)

end Cursor

end RowSieve

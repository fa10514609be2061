import RowSieve.Proofs.Token.Covering
import RowSieve.Proofs.Token.Surroundings

/-!
# Sources joined by a new line

What a place goes on with does not depend on the number of bytes before it: so many bytes later, the
same tokens or the same error are found so many bytes later (`Cursor.tokens_moved`).  And a token
does not go on behind the end of its line unless its source would end inside of it.  So where a
source can be split into tokens, a new line and any other source may come behind it: there are the
tokens of the first source and then those of the second, or there is the error of the second
(`scan_append_newline`).
-/

namespace RowSieve

/-- The error with so many bytes before the source. -/
def SourceError.moved (bytes : Nat) : SourceError → SourceError
  | character c position => .character c (bytes + position)
  | openText position => .openText (bytes + position)
  | openComment position => .openComment (bytes + position)
  | stalled strategy position => .stalled strategy (bytes + position)
  | noStatement found => .noStatement (found.moved bytes)
  | noClause keyword position => .noClause keyword (bytes + position)
  | unexpected expected found => .unexpected expected (found.moved bytes)
  | unsupported feature position => .unsupported feature (bytes + position)
  | trailing found => .trailing (found.moved bytes)

/-- The place with so many bytes before the source. -/
def Cursor.moved (bytes : Nat) (c : Cursor) : Cursor := ⟨bytes + c.position, c.rest⟩

namespace Cursor

variable {c after : Cursor} {token : Token}

theorem moveTo_moved (bytes : Nat) (c : Cursor) (taken rest : List Char) :
    (c.moved bytes).moveTo taken rest = (c.moveTo taken rest).moved bytes := by
  simp only [moved, moveTo, Nat.add_assoc]

theorem next_moved (bytes : Nat) (c : Cursor) :
    (c.moved bytes).next =
      ((c.next.1.map (.moved bytes)).mapError (.moved bytes), c.next.2.moved bytes) := by
  have hblanks : (c.moved bytes).skipBlanks = c.skipBlanks.moved bytes := moveTo_moved ..
  have hrest : (c.skipBlanks.moved bytes).rest = c.skipBlanks.rest := rfl
  simp only [next, hblanks, hrest, moveTo_moved]
  cases (Span.read c.skipBlanks.rest).found with
  | ok l => rfl
  | error f => cases f <;> rfl

/-- **What comes before a place only moves its tokens or its error.** -/
theorem tokens_moved (bytes : Nat) (c : Cursor) :
    (c.moved bytes).tokens =
      (c.tokens.map (·.map (.moved bytes))).mapError (.moved bytes) := by
  refine next_induct (P := fun c => (c.moved bytes).tokens =
    (c.tokens.map (·.map (.moved bytes))).mapError (.moved bytes)) ?error ?finish ?token c
  case error =>
    intro c e after hnext
    have hmoved := next_moved bytes c
    rw [hnext] at hmoved
    rw [tokens_of_next_error hnext, tokens_of_next_error hmoved]
    rfl
  case finish =>
    intro c token after hnext hk
    have hmoved := next_moved bytes c
    rw [hnext] at hmoved
    rw [tokens_of_next_ok hnext, if_pos hk, tokens_of_next_ok hmoved]
    exact if_pos hk
  case token =>
    intro c token after hnext hk ih
    have hmoved := next_moved bytes c
    rw [hnext] at hmoved
    rw [tokens_of_next_ok hnext, if_neg hk, tokens_of_next_ok hmoved, ih]
    refine (if_neg hk).trans ?_
    cases after.tokens <;> rfl

/-- Blanks in front of a place make no difference to its tokens. -/
theorem tokens_congr {d : Cursor} (h : c.skipBlanks = d.skipBlanks) : c.tokens = d.tokens := by
  have hnext : c.next = d.next := by rw [next, next, h]
  cases hd : d.next with
  | mk result after =>
    have hc := hnext.trans hd
    cases result with
    | error e => rw [tokens_of_next_error hc, tokens_of_next_error hd]
    | ok token => rw [tokens_of_next_ok hc, tokens_of_next_ok hd]

/-- Where a source ends, its surroundings go on. -/
theorem tokens_within_of_rest_eq_nil {cs : List Char} (h : c.skipBlanks.rest = []) :
    (c.within ⟨[], 0, '\n' :: cs⟩).tokens =
      tokens ⟨c.position + byteLength c.rest + 1, cs⟩ := by
  have hblank : ∀ d ∈ c.rest ++ ['\n'], Text.isBlank d = true :=
    List.forall_mem_append.2 ⟨isBlank_of_skipBlanks h, List.forall_mem_singleton.2 (by decide)⟩
  have hskip := skipBlanks_append c.position hblank cs
  rw [byteLength_append, List.append_assoc, ← Nat.add_assoc] at hskip
  refine tokens_congr ((congrArg skipBlanks ?_).trans hskip)
  rw [within, Nat.zero_add]
  rfl

/-- Behind the tokens of a source, those behind the new line come next. -/
theorem tokens_within_newline {front : List Token} {last : Token} (cs : List Char)
    (h : c.tokens = .ok (front ++ [last])) (hlast : last.kind = .endOfInput) :
    (c.within ⟨[], 0, '\n' :: cs⟩).tokens =
      (tokens ⟨c.position + byteLength c.rest + 1, cs⟩).map (front ++ ·) := by
  generalize htokens : front ++ [last] = ts at h
  revert front
  refine tokens_induct (P := fun c ts => ∀ {front}, front ++ [last] = ts →
    (c.within ⟨[], 0, '\n' :: cs⟩).tokens =
      (tokens ⟨c.position + byteLength c.rest + 1, cs⟩).map (front ++ ·)) ?finish ?token h
  case finish =>
    intro c after token hnext hk front hfront
    have hlength := congrArg List.length hfront
    obtain rfl : front = [] := List.length_eq_zero_iff.1 (by simpa using hlength)
    rw [tokens_within_of_rest_eq_nil ((kind_eq_endOfInput_iff hnext).1 hk)]
    exact (congrFun Except.map_id _).symm
  case token =>
    intro c after token ts hnext hk ih front hfront
    cases front with
    | nil =>
      cases hfront
      exact absurd hlast hk
    | cons t front =>
      cases hfront
      have hwithin := next_within (w := ⟨[], 0, '\n' :: cs⟩) (by simp [BeginsLine]) hnext hk
      obtain ⟨p, -, hrest, hposition, -⟩ := exists_piece_of_next hnext
      rw [tokens_of_next_ok hwithin, Token.moved_zero, if_neg hk, ih rfl, hrest, byteLength_append,
        ← Nat.add_assoc, ← hposition]
      cases tokens ⟨after.position + byteLength after.rest + 1, cs⟩ <;> rfl

end Cursor

/-- **Sources are joined by a new line.**  Where a source can be split into tokens, the end of the
input is the last of them.  With a new line and another source behind it, the other tokens are
still there, and those of the other source come next, at the bytes where it then stands; and the
error of the other source, if there is one, is what becomes of both. -/
theorem scan_append_newline {source : String} {tokens : List Token} (h : scan source = .ok tokens)
    (other : String) :
    ∃ front, tokens = front ++ [⟨.endOfInput, "", source.utf8ByteSize⟩] ∧
      scan (source ++ "\n" ++ other) =
        match scan other with
        | .ok others => .ok (front ++ others.map (.moved (source.utf8ByteSize + 1)))
        | .error e => .error (e.moved (source.utf8ByteSize + 1)) := by
  obtain ⟨front, rfl, -⟩ := Cursor.exists_eq_append_endOfInput h
  refine ⟨front, by simp [Cursor.start, byteLength_toList], ?_⟩
  have hjoined := Cursor.tokens_within_newline other.toList h rfl
  have hother := Cursor.tokens_moved (source.utf8ByteSize + 1) (.start other)
  have hplace : (⟨0 + byteLength source.toList + 1, other.toList⟩ : Cursor) =
      (Cursor.start other).moved (source.utf8ByteSize + 1) := by
    rw [byteLength_toList, Nat.zero_add]
    rfl
  have hstart : Cursor.start (source ++ "\n" ++ other) =
      (Cursor.start source).within ⟨[], 0, '\n' :: other.toList⟩ := by
    simp [Cursor.start, Cursor.within]
  rw [scan, hstart, hjoined, Cursor.start, hplace, hother, scan]
  cases (Cursor.start other).tokens <;> rfl

/-- The new line ends a comment, whether the source behind it can be split into tokens or not. -/
theorem scan_append_newline_comment :
    scan "a 'b' -- c " = .ok [⟨.word, "a", 0⟩, ⟨.text, "b", 2⟩, ⟨.comment, "c", 6⟩,
      ⟨.endOfInput, "", 11⟩] ∧
    scan ("a 'b' -- c " ++ "\n" ++ "\"é\" > 1.") = .ok [⟨.word, "a", 0⟩, ⟨.text, "b", 2⟩,
      ⟨.comment, "c", 6⟩, ⟨.text, "é", 12⟩, ⟨.greater, ">", 17⟩, ⟨.number, "1", 19⟩,
      ⟨.dot, ".", 20⟩, ⟨.endOfInput, "", 21⟩] ∧
    scan ("a 'b' -- c " ++ "\n" ++ "x 'y") = .error (.openText 14) := by
  have hscan : scan "a 'b' -- c " = .ok [⟨.word, "a", 0⟩, ⟨.text, "b", 2⟩, ⟨.comment, "c", 6⟩,
      ⟨.endOfInput, "", 11⟩] := by rfl
  have hother : scan "\"é\" > 1." = .ok [⟨.text, "é", 0⟩, ⟨.greater, ">", 5⟩, ⟨.number, "1", 7⟩,
      ⟨.dot, ".", 8⟩, ⟨.endOfInput, "", 9⟩] := by rfl
  have hopen : scan "x 'y" = .error (.openText 2) := by rfl
  obtain ⟨front, hfront, hjoined⟩ := scan_append_newline hscan "\"é\" > 1."
  obtain ⟨front', hfront', hfails⟩ := scan_append_newline hscan "x 'y"
  obtain rfl := (congrArg List.dropLast hfront).trans List.dropLast_concat
  rw [hother] at hjoined
  rw [hopen] at hfails
  exact ⟨hscan, hjoined, hfails⟩

end RowSieve

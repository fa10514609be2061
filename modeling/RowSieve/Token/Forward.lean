import RowSieve.Token.Cursor

/-!
# Cursors move forwards

Reading a token takes the characters from the front of what is left, nothing else:
`Span.taken_append_rest` puts them together again.  So every operation on a cursor leads to a place
that is `Cursor.Reaches`able by moving on: the characters passed are taken off the source and their
bytes are added to the position.  A cursor whose position has changed has fewer characters left
(`Cursor.Reaches.length_lt`), which is why reading comes to an end.
-/

namespace RowSieve

theorem splitWord_append (cs : List Char) : (splitWord cs).1 ++ (splitWord cs).2 = cs :=
  List.takeWhile_append_dropWhile

theorem splitNumber_append (cs : List Char) : (splitNumber cs).1 ++ (splitNumber cs).2 = cs := by
  have h := List.takeWhile_append_dropWhile (p := Char.isDigit) (l := cs)
  unfold splitNumber
  split
  next d rest heq =>
    split
    next hd =>
      rw [List.append_assoc, List.cons_append, List.takeWhile_append_dropWhile, ← heq, h]
    next hd => rw [← heq, h]
  next => exact h

theorem Literal.taken_append_rest {quote : Char} {cs : List Char} {l : Literal}
    (h : Literal.read quote cs = some l) : l.taken ++ l.rest = cs := by
  fun_induction Literal.read quote cs generalizing l with
  | case1 => simp at h
  | case2 => simp at h; subst h; rfl
  | case3 => simp at h
  | case4 rest ih =>
    obtain ⟨m, hm, rfl⟩ := Option.map_eq_some_iff.1 h
    simp [Literal.push, ih hm]
  | case5 => simp at h; subst h; rfl
  | case6 d rest _ ih =>
    obtain ⟨m, hm, rfl⟩ := Option.map_eq_some_iff.1 h
    simp [Literal.push, ih hm]
  | case7 c d rest _ _ ih =>
    obtain ⟨m, hm, rfl⟩ := Option.map_eq_some_iff.1 h
    simp [Literal.push, ih hm]

theorem splitComment_append {cs inside rest : List Char}
    (h : splitComment cs = some (inside, rest)) : inside ++ '*' :: '/' :: rest = cs := by
  fun_induction splitComment cs generalizing inside rest with
  | case1 => simp at h
  | case2 => simp at h
  | case3 c d rest' hc =>
    simp only [Bool.and_eq_true, decide_eq_true_eq] at hc
    simp only [Option.some.injEq, Prod.mk.injEq] at h
    obtain ⟨rfl, rfl⟩ := h
    simp [hc.1, hc.2]
  | case4 c d rest' hc ih =>
    obtain ⟨⟨i, r⟩, hm, he⟩ := Option.map_eq_some_iff.1 h
    simp only [Prod.mk.injEq] at he
    obtain ⟨rfl, rfl⟩ := he
    simp [ih hm]

namespace Span

theorem taken_append_rest_lineComment (rest : List Char) :
    (lineComment rest).taken ++ (lineComment rest).rest = '-' :: '-' :: rest := by
  simp [lineComment, List.takeWhile_append_dropWhile]

theorem taken_append_rest_blockComment (rest : List Char) :
    (blockComment rest).taken ++ (blockComment rest).rest = '/' :: '*' :: rest := by
  unfold blockComment
  split
  next inside rest' h => simp [← splitComment_append h]
  next => rfl

theorem taken_append_rest_quotation (quote : Char) (rest : List Char) :
    (quotation quote rest).taken ++ (quotation quote rest).rest = quote :: rest := by
  unfold quotation
  split
  next l h => simp [Literal.taken_append_rest h]
  next => simp

theorem taken_append_rest_significant (c : Char) (rest : List Char) :
    (significant c rest).taken ++ (significant c rest).rest = c :: rest := by
  unfold significant
  split
  · exact taken_append_rest_quotation c rest
  · split
    · exact splitNumber_append _
    · split
      · exact splitWord_append _
      · split
        · simp [plain, List.splitAt_eq]
        · rfl

/-- Nothing is lost between the characters that were read and those that were not. -/
theorem taken_append_rest (cs : List Char) : (read cs).taken ++ (read cs).rest = cs := by
  unfold read
  split
  · rfl
  · exact taken_append_rest_lineComment _
  · exact taken_append_rest_blockComment _
  · exact taken_append_rest_significant _ _

end Span

@[simp] theorem byteLength_nil : byteLength [] = 0 := rfl

@[simp] theorem byteLength_cons (c : Char) (cs : List Char) :
    byteLength (c :: cs) = c.utf8Size + byteLength cs := rfl

theorem byteLength_append (cs ds : List Char) :
    byteLength (cs ++ ds) = byteLength cs + byteLength ds := by
  induction cs with
  | nil => simp
  | cons c cs ih => simp [ih, Nat.add_assoc]

/-- Characters take up the bytes of the text that they make up. -/
theorem byteLength_toList (s : String) : byteLength s.toList = s.utf8ByteSize := by
  obtain ⟨cs, rfl⟩ := s.exists_eq_ofList
  rw [String.toList_ofList]
  induction cs with
  | nil => rfl
  | cons c cs ih =>
    rw [byteLength_cons, ih, String.ofList_cons, String.utf8ByteSize_append,
      String.utf8ByteSize_singleton]

/-- Every character takes up at least one byte. -/
theorem length_le_byteLength (cs : List Char) : cs.length ≤ byteLength cs := by
  induction cs with
  | nil => exact Nat.le_refl 0
  | cons c cs ih =>
    have := c.utf8Size_pos
    rw [byteLength_cons, List.length_cons]
    omega

namespace Cursor

/-- One comes from `c` to `d` by moving on. -/
def Reaches (c d : Cursor) : Prop :=
  ∃ taken, taken ++ d.rest = c.rest ∧ d.position = c.position + byteLength taken

theorem Reaches.refl (c : Cursor) : c.Reaches c := ⟨[], rfl, rfl⟩

theorem Reaches.trans {c d e : Cursor} (h : c.Reaches d) (k : d.Reaches e) : c.Reaches e := by
  obtain ⟨t, ht, hp⟩ := h
  obtain ⟨u, hu, hq⟩ := k
  exact ⟨t ++ u, by rw [List.append_assoc, hu, ht],
    by rw [hq, hp, byteLength_append, Nat.add_assoc]⟩

theorem Reaches.length_le {c d : Cursor} (h : c.Reaches d) : d.rest.length ≤ c.rest.length := by
  obtain ⟨t, ht, -⟩ := h
  rw [← ht, List.length_append]
  omega

theorem Reaches.length_lt {c d : Cursor} (h : c.Reaches d) (hp : d.position ≠ c.position) :
    d.rest.length < c.rest.length := by
  obtain ⟨t, ht, hq⟩ := h
  rw [← ht, List.length_append]
  cases t with
  | nil => exact absurd hq hp
  | cons c t => simp only [List.length_cons]; omega

theorem reaches_moveTo {c : Cursor} {taken rest : List Char} (h : taken ++ rest = c.rest) :
    c.Reaches (c.moveTo taken rest) := ⟨taken, h, rfl⟩

theorem reaches_skip (c : Cursor) (n : Nat) : c.Reaches (c.skip n) :=
  reaches_moveTo (List.take_append_drop n c.rest)

theorem reaches_skipBlanks (c : Cursor) : c.Reaches c.skipBlanks :=
  reaches_moveTo List.takeWhile_append_dropWhile

theorem reaches_next (c : Cursor) : c.Reaches c.next.2 :=
  c.reaches_skipBlanks.trans (reaches_moveTo (Span.taken_append_rest c.skipBlanks.rest))

end Cursor

end RowSieve

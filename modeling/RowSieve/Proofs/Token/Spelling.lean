import RowSieve.Proofs.Decimal.Spelling
import RowSieve.Request.Basic

/-!
# Tokens that are written

What `Span.read` makes of the spelling of a token when something else follows it.  A token is read
back only if what follows cannot go on with it, so each statement names the characters that may not
come next: `Span.read_word`, `Span.read_numeral`, `Span.read_spell` and, for marks, `Span.read_mark`.
-/

namespace RowSieve

/-! ### Characters -/

namespace Text

/-- The code points of blanks. -/
def blankCodes : List Nat :=
  [0x9, 0xA, 0xB, 0xC, 0xD, 0x20, 0x85, 0xA0, 0x1680, 0x2000, 0x2001, 0x2002, 0x2003, 0x2004,
   0x2005, 0x2006, 0x2007, 0x2008, 0x2009, 0x200A, 0x2028, 0x2029, 0x202F, 0x205F, 0x3000]

theorem toNat_mem_blankCodes {c : Char} (h : isBlank c = true) : c.toNat ∈ blankCodes := by
  have hval : c.val.toNat = c.toNat := rfl
  simp only [isBlank, Bool.or_eq_true, Bool.and_eq_true, beq_iff_eq, decide_eq_true_eq,
    ← UInt32.toNat_inj, UInt32.le_iff_toNat_le, hval, UInt32.reduceToNat] at h
  simp only [blankCodes, List.mem_cons, List.not_mem_nil, or_false]
  omega

theorem isAlphabetic_eq_false_of_isBlank {c : Char} (h : isBlank c = true) :
    isAlphabetic c = false := by
  have hblanks : ∀ n ∈ blankCodes, isAlphabetic (Char.ofNat n) = false := by decide +kernel
  have hc := hblanks c.toNat (toNat_mem_blankCodes h)
  rwa [Char.ofNat_toNat] at hc

end Text

theorem isBlank_eq_false_of_isWordStart {c : Char} (h : isWordStart c = true) :
    Text.isBlank c = false := by
  refine Bool.eq_false_iff.2 fun hblank => ?_
  simp only [isWordStart, Text.isAlphabetic_eq_false_of_isBlank hblank, Bool.false_or,
    decide_eq_true_eq] at h
  subst h
  simp [Text.isBlank] at hblank

theorem ne_of_isWordStart {c d : Char} (h : isWordStart c = true) (hd : isWordStart d = false) :
    c ≠ d := by
  rintro rfl
  simp [hd] at h

theorem isDigit_eq_false_of_isWordStart {c : Char} (h : isWordStart c = true) :
    c.isDigit = false := by
  have hdigits : ∀ n < 58, (Char.ofNat n).isDigit = true → isWordStart (Char.ofNat n) = false := by
    decide
  refine Bool.eq_false_iff.2 fun hdigit => ?_
  have hle : c.toNat ≤ 57 := by
    simp only [Char.isDigit, Bool.and_eq_true, decide_eq_true_eq] at hdigit
    exact UInt32.le_iff_toNat_le.1 hdigit.2
  have hc := hdigits c.toNat (by omega)
  rw [Char.ofNat_toNat] at hc
  simp [hc hdigit] at h

/-! ### Words and numbers -/

/-- A text that is a single word. -/
inductive IsWord : List Char → Prop where
  /-- It begins as words do and goes on as they do. -/
  | intro {c cs} : isWordStart c = true → cs.all isWordChar = true → IsWord (c :: cs)

theorem isWordChar_of_isWordStart {c : Char} (h : isWordStart c = true) : isWordChar c = true := by
  simp only [isWordStart, isWordChar, Bool.or_eq_true] at h ⊢
  exact h.imp_left .inl

theorem IsWord.all {w : List Char} (h : IsWord w) : ∀ c ∈ w, isWordChar c = true := by
  obtain ⟨hc, hcs⟩ := h
  exact List.forall_mem_cons.2 ⟨isWordChar_of_isWordStart hc, by simpa using hcs⟩

theorem isWord_splitWord {c : Char} {cs : List Char} (h : isWordStart c = true) :
    IsWord (splitWord (c :: cs)).1 := by
  rw [splitWord, List.takeWhile_cons_of_pos (isWordChar_of_isWordStart h)]
  exact .intro h List.all_takeWhile

/-- A list of what has a property ends in front of what does not have it. -/
theorem takeWhile_append_eq {α : Type} {p : α → Bool} {l rest : List α} (hl : ∀ a ∈ l, p a = true)
    (hrest : ∀ a ∈ rest.head?, p a = false) :
    (l ++ rest).takeWhile p = l ∧ (l ++ rest).dropWhile p = rest := by
  rw [List.takeWhile_append_of_pos hl, List.dropWhile_append_of_pos hl]
  cases rest with
  | nil => exact ⟨List.append_nil l, rfl⟩
  | cons a rest => simp [hrest a rfl]

/-- Nothing that follows belongs to a word. -/
theorem splitWord_append_of_isWord {w rest : List Char} (h : IsWord w)
    (hrest : ∀ c ∈ rest.head?, isWordChar c = false) : splitWord (w ++ rest) = (w, rest) := by
  obtain ⟨htake, hdrop⟩ := takeWhile_append_eq h.all hrest
  rw [splitWord, htake, hdrop]

theorem ne_of_isDigit {c d : Char} (h : c.isDigit = true) (hd : d.isDigit = false) : c ≠ d := by
  rintro rfl
  simp [hd] at h

/-- Nothing that follows belongs to a number. -/
theorem splitNumber_append_of_numeral {n rest : List Char} (h : Decimal.Numeral n)
    (hrest : ∀ c ∈ rest.head?, c.isDigit = false ∧ c ≠ '.') :
    splitNumber (n ++ rest) = (n, rest) := by
  have hdigit : ∀ c ∈ rest.head?, c.isDigit = false := fun c hc => (hrest c hc).1
  cases h with
  | whole _ hall =>
    obtain ⟨htake, hdrop⟩ := takeWhile_append_eq (List.all_eq_true.1 hall) hdigit
    unfold splitNumber
    rw [htake, hdrop]
    split
    next => exact absurd rfl (hrest '.' rfl).2
    next => rfl
  | @fraction cs ds _ hall hne hall' =>
    obtain ⟨d, ds, rfl⟩ := List.exists_cons_of_ne_nil hne
    have hpoint : ∀ c ∈ ('.' :: d :: (ds ++ rest)).head?, c.isDigit = false := by simp
    obtain ⟨htake, hdrop⟩ := takeWhile_append_eq (List.all_eq_true.1 hall) hpoint
    obtain ⟨htake', hdrop'⟩ := takeWhile_append_eq (List.all_eq_true.1 hall') hdigit
    have hd : d.isDigit = true := List.all_eq_true.1 hall' d (.head _)
    unfold splitNumber
    rw [List.append_assoc, List.cons_append, List.cons_append]
    rw [List.cons_append] at htake' hdrop'
    simp only [htake, hdrop, hd, if_true, htake', hdrop']

namespace Span

theorem read_cons {c : Char} {cs : List Char} (hminus : c ≠ '-') (hslash : c ≠ '/') :
    read (c :: cs) = significant c cs := by
  unfold read
  split
  next heq => cases heq
  next heq => exact absurd (List.cons.inj heq).1 hminus
  next heq => exact absurd (List.cons.inj heq).1 hslash
  next heq =>
    cases heq
    rfl

theorem read_word {w rest : List Char} (h : IsWord w)
    (hrest : ∀ c ∈ rest.head?, isWordChar c = false) :
    read (w ++ rest) = plain .word (w, rest) := by
  have hsplit := splitWord_append_of_isWord h hrest
  obtain @⟨c, cs, hc, -⟩ := h
  have hquote : (decide (c = '\'') || decide (c = '"')) = false := by
    simp [ne_of_isWordStart hc (d := '\'') (by decide), ne_of_isWordStart hc (d := '"') (by decide)]
  rw [List.cons_append,
    read_cons (ne_of_isWordStart hc (by decide)) (ne_of_isWordStart hc (by decide)), significant,
    hquote, isDigit_eq_false_of_isWordStart hc, hc, ← List.cons_append, hsplit]
  rfl

theorem read_numeral {n rest : List Char} (h : Decimal.Numeral n)
    (hrest : ∀ c ∈ rest.head?, c.isDigit = false ∧ c ≠ '.') :
    read (n ++ rest) = plain .number (n, rest) := by
  have hsplit := splitNumber_append_of_numeral h hrest
  obtain ⟨c, cs, rfl, hc⟩ := h.exists_digit
  have hquote : (decide (c = '\'') || decide (c = '"')) = false := by
    simp [ne_of_isDigit hc (d := '\'') rfl, ne_of_isDigit hc (d := '"') rfl]
  rw [List.cons_append, read_cons (ne_of_isDigit hc rfl) (ne_of_isDigit hc rfl), significant,
    hquote, hc, ← List.cons_append, hsplit]
  rfl

/-- A mark is read if it is not the beginning of a comment. -/
theorem read_mark {c : Char} {cs : List Char} {kind : Kind} {size : Nat}
    (h : mark? (c :: cs) = some (kind, size)) (hminus : c ≠ '-') (hslash : c ≠ '/') :
    read (c :: cs) = plain kind ((c :: cs).splitAt size) := by
  have hsignificant : (decide (c = '\'') || decide (c = '"')) = false ∧ c.isDigit = false ∧
      isWordStart c = false := by
    generalize hcs : c :: cs = ds at h
    unfold mark? at h
    split at h
    all_goals first
      | obtain ⟨rfl, -⟩ := List.cons.inj hcs
        decide
      | cases h
  rw [read_cons hminus hslash, significant, hsignificant.1, hsignificant.2.1, hsignificant.2.2]
  simp only [Bool.false_eq_true, if_false, h]

theorem read_minus {d : Char} {rest : List Char} (hd : d.isDigit = true) :
    read ('-' :: d :: rest) = plain .minus (['-'], d :: rest) := by
  have hread : read ('-' :: d :: rest) = significant '-' (d :: rest) := by
    unfold read
    split
    next heq => cases heq
    next heq =>
      cases heq
      cases hd
    next heq => cases heq
    next heq =>
      cases heq
      rfl
  rw [hread]
  rfl

end Span

/-! ### Quoted literals -/

/-- A character inside a quoted literal, where the quote and the backslash are written twice. -/
def spellInside (quote c : Char) : List Char := if c = quote ∨ c = '\\' then [c, c] else [c]

namespace Literal

theorem read_cons_cons {quote c d : Char} {cs : List Char} (hquote : c ≠ quote) (hc : c ≠ '\\') :
    Literal.read quote (c :: d :: cs) = (Literal.read quote (d :: cs)).map (push c [c]) := by
  rw [Literal.read, if_neg hquote, if_neg hc]

/-- What is written between quotes is read back. -/
theorem read_spelled {quote : Char} (hquote : quote ≠ '\\') {rest : List Char}
    (hrest : ∀ c ∈ rest.head?, c ≠ quote) (s : List Char) :
    Literal.read quote (s.flatMap (spellInside quote) ++ quote :: rest) =
      some ⟨s, s.flatMap (spellInside quote) ++ [quote], rest⟩ := by
  induction s with
  | nil =>
    cases rest with
    | nil => simp [Literal.read]
    | cons c rest => simp [Literal.read, hrest c rfl]
  | cons c s ih =>
    rw [List.flatMap_cons, List.append_assoc]
    by_cases hc : c = quote
    · simp [spellInside, Literal.read, hc, ih, push]
    · by_cases hbackslash : c = '\\'
      · simp [spellInside, Literal.read, hbackslash, hquote.symm, ih, push, unescape]
      · -- At least the closing quote comes behind the character.
        obtain ⟨d, ds, hds⟩ := List.exists_cons_of_ne_nil
          (l := s.flatMap (spellInside quote) ++ quote :: rest) (by simp)
        have hspell : spellInside quote c = [c] := by simp [spellInside, hc, hbackslash]
        rw [hspell, List.singleton_append, hds, read_cons_cons hc hbackslash, ← hds, ih]
        rfl

end Literal

/-- A text between quotes. -/
def Literal.spell (quote : Char) (s : String) : String :=
  String.ofList (quote :: s.toList.flatMap (spellInside quote) ++ [quote])

theorem Span.read_spell {quote : Char} (hquote : quote = '\'' ∨ quote = '"') (s : String)
    {rest : List Char} (hrest : ∀ c ∈ rest.head?, c ≠ quote) :
    read ((Literal.spell quote s).toList ++ rest) =
      ⟨.ok ⟨.text, s⟩, (Literal.spell quote s).toList, rest⟩ := by
  obtain ⟨hbackslash, hminus, hslash⟩ : quote ≠ '\\' ∧ quote ≠ '-' ∧ quote ≠ '/' := by
    rcases hquote with rfl | rfl <;> decide
  have hread := Literal.read_spelled hbackslash hrest s.toList
  simp only [Literal.spell, String.toList_ofList, List.append_assoc, List.cons_append]
  rw [read_cons hminus hslash, significant]
  simp [quotation, hread, hquote]

/-- Without backslashes, a text is rendered as it is spelled. -/
theorem quoteText_eq_spell {s : String} (hs : '\\' ∉ s.toList) :
    Node.quoteText s = Literal.spell '\'' s := by
  have hspell : (s.toList.flatMap fun c => if c = '\'' then ['\'', '\''] else [c]) =
      s.toList.flatMap (spellInside '\'') := by
    rw [List.flatMap_def, List.flatMap_def]
    refine congrArg List.flatten (List.map_congr_left fun c hc => ?_)
    have hbackslash : c ≠ '\\' := fun h => hs (h ▸ hc)
    by_cases hquote : c = '\''
    · simp [spellInside, hquote]
    · simp [spellInside, hquote, hbackslash]
  rw [Node.quoteText, Literal.spell, hspell]

end RowSieve

import RowSieve.Proofs.Token.Reading

/-!
# Tokens in front of the end of a line

A token that is found at the end of a source is found there as well if a new line comes behind the
source: no token goes on with the end of a line.  A comment to the end of the line does not reach
beyond it, and a point after digits is part of the number only if a digit follows.
`Span.read_append` says so for every token.
-/

namespace RowSieve

/-- Nothing, or text that begins with the end of a line. -/
def BeginsLine (more : List Char) : Prop := ∀ c ∈ more.head?, c = '\n'

variable {cs more : List Char}

namespace BeginsLine

theorem head? (h : BeginsLine more) {p : Char → Bool} (hp : p '\n' = false) :
    ∀ c ∈ more.head?, p c = false := fun c hc => by rwa [h c hc]

/-- The first characters with a property that the end of a line does not have. -/
theorem takeWhile_append (h : BeginsLine more) (cs : List Char) {p : Char → Bool}
    (hp : p '\n' = false) :
    (cs ++ more).takeWhile p = cs.takeWhile p ∧
      (cs ++ more).dropWhile p = cs.dropWhile p ++ more := by
  induction cs with
  | nil =>
    cases more with
    | nil => exact ⟨rfl, rfl⟩
    | cons c more => simp [h.head? hp c rfl]
  | cons c cs ih =>
    by_cases hc : p c = true
    · simp [hc, ih]
    · simp [hc]

/-- What is appended adds no second character to a mark. -/
theorem append_ne_cons (h : BeginsLine more) {d : Char} (hd : d ≠ '\n')
    (hcs : ∀ ds, cs = d :: ds → False) : ∀ ds, cs ++ more = d :: ds → False := by
  intro ds heq
  cases cs with
  | nil => exact hd (h d (by rw [List.nil_append] at heq; rw [heq]; rfl))
  | cons c cs =>
    obtain ⟨rfl, -⟩ := List.cons.inj heq
    exact hcs cs rfl

end BeginsLine

theorem splitWord_append_of_beginsLine (h : BeginsLine more) (cs : List Char) :
    splitWord (cs ++ more) = ((splitWord cs).1, (splitWord cs).2 ++ more) := by
  obtain ⟨htake, hdrop⟩ := h.takeWhile_append cs (p := isWordChar) (by decide)
  rw [splitWord, htake, hdrop]
  rfl

theorem splitNumber_append_of_beginsLine (h : BeginsLine more) :
    splitNumber (cs ++ more) = ((splitNumber cs).1, (splitNumber cs).2 ++ more) := by
  obtain ⟨htake, hdrop⟩ := h.takeWhile_append cs (p := Char.isDigit) rfl
  unfold splitNumber
  rw [htake, hdrop]
  cases cs.dropWhile Char.isDigit with
  | nil =>
    cases more with
    | nil => rfl
    | cons c more =>
      obtain rfl := h c rfl
      rfl
  | cons c rest =>
    by_cases hc : c = '.'
    · subst hc
      cases rest with
      | nil =>
        -- Behind the point comes the end of the line, if anything.
        cases more with
        | nil => rfl
        | cons c more =>
          obtain rfl := h c rfl
          rfl
      | cons d rest =>
        obtain ⟨htake', hdrop'⟩ := h.takeWhile_append (d :: rest) (p := Char.isDigit) rfl
        simp only [List.cons_append] at htake' hdrop' ⊢
        split
        · rw [htake', hdrop']
        · rfl
    · simp [hc]

theorem Literal.read_append {quote : Char} (hquote : quote ≠ '\n') (h : BeginsLine more)
    {l : Literal} (hl : Literal.read quote cs = some l) :
    Literal.read quote (cs ++ more) = some { l with rest := l.rest ++ more } := by
  fun_induction Literal.read quote cs generalizing l with
  | case1 => cases hl
  | case2 =>
    cases hl
    cases more with
    | nil => simp [Literal.read]
    | cons c more => simp [Literal.read, h c rfl, hquote.symm]
  | case3 => cases hl
  | case4 rest ih =>
    obtain ⟨m, hm, rfl⟩ := Option.map_eq_some_iff.1 hl
    simp [Literal.read, ih hm, push]
  | case5 d rest hd =>
    cases hl
    simp [Literal.read, hd]
  | case6 d rest hc ih =>
    obtain ⟨m, hm, rfl⟩ := Option.map_eq_some_iff.1 hl
    simp [Literal.read, hc, ih hm, push]
  | case7 c d rest hquote' hc ih =>
    obtain ⟨m, hm, rfl⟩ := Option.map_eq_some_iff.1 hl
    have hread := ih hm
    rw [List.cons_append] at hread
    simp [Literal.read, hquote', hc, hread, push]

theorem splitComment_append_of_some {inside rest : List Char}
    (h : splitComment cs = some (inside, rest)) :
    splitComment (cs ++ more) = some (inside, rest ++ more) := by
  fun_induction splitComment cs generalizing inside rest with
  | case1 => cases h
  | case2 => cases h
  | case3 c d rest' hc =>
    cases h
    simp [splitComment, hc]
  | case4 c d rest' hc ih =>
    obtain ⟨⟨i, r⟩, hm, he⟩ := Option.map_eq_some_iff.1 h
    cases he
    have hsplit := ih hm
    rw [List.cons_append] at hsplit
    simp [splitComment, hc, hsplit]

theorem mark?_append (h : BeginsLine more) {kind : Kind} {size : Nat}
    (hm : mark? cs = some (kind, size)) :
    mark? (cs ++ more) = some (kind, size) ∧ size ≤ cs.length := by
  unfold mark? at hm
  split at hm
  case h_18 tail htail =>
    have hne := h.append_ne_cons (by decide) htail
    cases hm
    simp [mark?]
  case h_19 tail htail htail' =>
    have hne := h.append_ne_cons (by decide) htail
    have hne' := h.append_ne_cons (by decide) htail'
    cases hm
    simp [mark?]
  case h_20 tail htail =>
    have hne := h.append_ne_cons (by decide) htail
    cases hm
    simp [mark?]
  case h_21 => cases hm
  all_goals
    cases hm
    exact ⟨rfl, by simp⟩

namespace Span

/-- What a span becomes when something comes behind the source. -/
def before (more : List Char) (s : Span) : Span := { s with rest := s.rest ++ more }

theorem significant_append (h : BeginsLine more) {c : Char} {l : Lexeme}
    (hl : (significant c cs).found = .ok l) :
    significant c (cs ++ more) = (significant c cs).before more := by
  unfold significant at hl ⊢
  split
  next hquote =>
    rw [if_pos hquote] at hl
    have hnewline : c ≠ '\n' := by
      rintro rfl
      cases hquote
    unfold quotation at hl ⊢
    cases hread : Literal.read c cs with
    | none =>
      rw [hread] at hl
      cases hl
    | some m =>
      rw [Literal.read_append hnewline h hread]
      rfl
  next hquote =>
    rw [if_neg hquote] at hl
    split
    · rw [← List.cons_append, splitNumber_append_of_beginsLine h]
      rfl
    next hdigit =>
      rw [if_neg hdigit] at hl
      split
      · rw [← List.cons_append, splitWord_append_of_beginsLine h]
        rfl
      next hword =>
        rw [if_neg hword] at hl
        cases hmark : mark? (c :: cs) with
        | none =>
          rw [hmark] at hl
          cases hl
        | some m =>
          obtain ⟨kind, size⟩ := m
          obtain ⟨happend, hsize⟩ := mark?_append h hmark
          rw [← List.cons_append, happend]
          simp only [plain, before, List.splitAt_eq, List.take_append_of_le_length hsize,
            List.drop_append_of_le_length hsize]

theorem read_eq_significant {c : Char} (hline : ∀ ds, c = '-' → cs = '-' :: ds → False)
    (hblock : ∀ ds, c = '/' → cs = '*' :: ds → False) : read (c :: cs) = significant c cs := by
  unfold read
  split
  next heq => cases heq
  next rest heq =>
    obtain ⟨rfl, rfl⟩ := List.cons.inj heq
    exact (hline rest rfl rfl).elim
  next rest heq =>
    obtain ⟨rfl, rfl⟩ := List.cons.inj heq
    exact (hblock rest rfl rfl).elim
  next heq =>
    cases heq
    rfl

/-- A token that is found is found in front of the end of a line, too. -/
theorem read_append (h : BeginsLine more) (hcs : cs ≠ []) {l : Lexeme}
    (hl : (read cs).found = .ok l) : read (cs ++ more) = (read cs).before more := by
  unfold read at hl
  split at hl
  next => exact absurd rfl hcs
  next rest =>
    obtain ⟨htake, hdrop⟩ := h.takeWhile_append rest (p := (· ≠ '\n')) (by decide)
    simp only [List.cons_append, read, lineComment, htake, hdrop, before]
  next rest =>
    unfold blockComment at hl
    cases hsplit : splitComment rest with
    | none =>
      rw [hsplit] at hl
      cases hl
    | some m =>
      simp only [List.cons_append, read, blockComment, hsplit, splitComment_append_of_some hsplit,
        before]
  next c rest hline hblock =>
    have hline' : ∀ ds, c = '-' → rest ++ more = '-' :: ds → False := fun ds hc =>
      h.append_ne_cons (by decide) (fun ds' => hline ds' hc) ds
    have hblock' : ∀ ds, c = '/' → rest ++ more = '*' :: ds → False := fun ds hc =>
      h.append_ne_cons (by decide) (fun ds' => hblock ds' hc) ds
    rw [List.cons_append, read_eq_significant hline' hblock', read_eq_significant hline hblock]
    exact significant_append h hl

end Span

end RowSieve

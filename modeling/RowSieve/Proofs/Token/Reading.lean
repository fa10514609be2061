import RowSieve.Token.Forward

/-!
# Reading tokens

What `Cursor.next` makes of a place in a source.  `Span.View` lists the spans that `Span.read` can
give, and `Span.Found` is what is known of the token if there is one; every statement about single
tokens comes from it.

A token other than the end of the input takes at least one character (`Cursor.length_lt_of_next`),
so `Cursor.tokens` can be unfolded token by token (`Cursor.tokens_of_next_ok`) without its bound,
and what holds of the tokens can be proved by induction on them (`Cursor.tokens_induct`).
-/

namespace RowSieve

/-- The spans that reading can give: nothing but a fault, or a token with what it is spelled by. -/
inductive Span.View : List Char → Span → Prop where
  /-- The end of the input. -/
  | finish : View [] ⟨.ok ⟨.endOfInput, ""⟩, [], []⟩
  /-- No token. -/
  | fault {cs taken rest} (f : Fault) : View cs ⟨.error f, taken, rest⟩
  /-- A comment. -/
  | comment {c cs taken rest} (s : String) :
    taken ≠ [] → View (c :: cs) ⟨.ok ⟨.comment, s⟩, taken, rest⟩
  /-- A quoted literal. -/
  | text {c cs taken rest} (s : String) :
    taken ≠ [] → View (c :: cs) ⟨.ok ⟨.text, s⟩, taken, rest⟩
  /-- A number. -/
  | number {c cs} : c.isDigit → View (c :: cs) (Span.plain .number (splitNumber (c :: cs)))
  /-- A word. -/
  | word {c cs} : isWordStart c → View (c :: cs) (Span.plain .word (splitWord (c :: cs)))
  /-- A mark. -/
  | mark {cs kind size} : mark? cs = some (kind, size) → View cs (Span.plain kind (cs.splitAt size))

/-- A mark takes characters, and it is neither a literal, a word nor the end of the input. -/
theorem mark?_spec {cs : List Char} {kind : Kind} {size : Nat} (h : mark? cs = some (kind, size)) :
    0 < size ∧ cs ≠ [] ∧
      kind ∉ [Kind.endOfInput, .comment, .word, .number, .text, .function] := by
  unfold mark? at h
  split at h
  all_goals
    simp only [Option.some.injEq, Prod.mk.injEq, reduceCtorEq] at h
    try
      obtain ⟨rfl, rfl⟩ := h
      exact ⟨by decide, by simp, by decide⟩

namespace Span

theorem view_significant (c : Char) (cs : List Char) : View (c :: cs) (significant c cs) := by
  unfold significant
  split
  · unfold quotation
    split
    · exact .text _ (by simp)
    · exact .fault _
  · split
    next hd => exact .number hd
    next =>
      split
      next hw => exact .word hw
      next =>
        split
        next hm => exact .mark hm
        next => exact .fault _

theorem view_read (cs : List Char) : View cs (read cs) := by
  unfold read
  split
  · exact .finish
  · exact .comment _ (by simp)
  · unfold blockComment
    split
    · exact .comment _ (by simp)
    · exact .fault _
  · exact view_significant _ _

theorem splitWord_ne_nil {c : Char} {cs : List Char} (h : isWordStart c) :
    (splitWord (c :: cs)).1 ≠ [] := by
  have hc : isWordChar c = true := by
    simp only [isWordStart, isWordChar, Bool.or_eq_true] at h ⊢
    exact h.imp_left .inl
  simp [splitWord, hc]

theorem splitNumber_ne_nil {c : Char} {cs : List Char} (h : c.isDigit) :
    (splitNumber (c :: cs)).1 ≠ [] := by
  unfold splitNumber
  split
  · split <;> simp [h]
  · simp [h]

/-- What is known of a token that is read where characters are left. -/
structure Found (cs : List Char) (l : Lexeme) : Prop where
  /-- It takes characters. -/
  taken : (read cs).taken ≠ []
  /-- It is not the end of the input, and only a dialect makes a function of it. -/
  kind : l.kind ∉ [Kind.endOfInput, .function]
  /-- A word begins as words do, and goes on as far as it can. -/
  word : l.kind = .word → (∃ c rest, cs = c :: rest ∧ isWordStart c) ∧
    read cs = plain .word (splitWord cs)
  /-- So does a number. -/
  number : l.kind = .number → (∃ c rest, cs = c :: rest ∧ c.isDigit) ∧
    read cs = plain .number (splitNumber cs)

theorem found_of_read {cs : List Char} {l : Lexeme} (h : (read cs).found = .ok l) (hcs : cs ≠ []) :
    Found cs l := by
  have hv := view_read cs
  generalize hspan : read cs = span at h hv
  cases hv with
  | finish => exact absurd rfl hcs
  | fault => simp at h
  | comment _ ht => cases h; exact ⟨by rwa [hspan], by simp, nofun, nofun⟩
  | text _ ht => cases h; exact ⟨by rwa [hspan], by simp, nofun, nofun⟩
  | number hd =>
    cases h
    refine ⟨?_, by simp, nofun, fun _ => ⟨⟨_, _, rfl, hd⟩, hspan⟩⟩
    rw [hspan]
    exact splitNumber_ne_nil hd
  | word hw =>
    cases h
    refine ⟨?_, by simp, fun _ => ⟨⟨_, _, rfl, hw⟩, hspan⟩, nofun⟩
    rw [hspan]
    exact splitWord_ne_nil hw
  | mark hm =>
    obtain ⟨hsize, -, hk⟩ := mark?_spec hm
    cases h
    simp only [List.mem_cons, List.not_mem_nil, or_false, not_or] at hk
    refine ⟨?_, by simp [hk], fun hword => absurd hword hk.2.2.1,
      fun hnumber => absurd hnumber hk.2.2.2.1⟩
    simp [hspan, plain, List.splitAt_eq, hcs, Nat.pos_iff_ne_zero.1 hsize]

theorem kind_eq_endOfInput_iff {cs : List Char} {l : Lexeme} (h : (read cs).found = .ok l) :
    l.kind = .endOfInput ↔ cs = [] := by
  constructor
  · intro hk
    refine Decidable.byContradiction fun hcs => ?_
    simpa [hk] using (found_of_read h hcs).kind
  · rintro rfl
    cases h
    rfl

theorem read_leftParen (rest : List Char) :
    read ('(' :: rest) = plain .leftParen (['('], rest) := by
  simp [read, significant, mark?, plain, isWordStart, Text.isAlphabetic, Char.isDigit]

end Span

namespace Cursor

variable {c after : Cursor} {token : Token}

/-- Where the token of a place comes from. -/
theorem next_eq_ok (h : c.next = (.ok token, after)) :
    ∃ l, (Span.read c.skipBlanks.rest).found = .ok l ∧
      token = ⟨l.kind, l.text, c.skipBlanks.position⟩ ∧
      after = c.skipBlanks.moveTo (Span.read c.skipBlanks.rest).taken
        (Span.read c.skipBlanks.rest).rest := by
  unfold next at h
  cases hf : (Span.read c.skipBlanks.rest).found with
  | error f => simp [hf] at h
  | ok l =>
    simp only [hf, Prod.mk.injEq, Except.ok.injEq] at h
    exact ⟨l, rfl, h.1.symm, h.2.symm⟩

/-- What a place goes on with decides the next token. -/
theorem next_of_read {l : Lexeme} {taken rest : List Char}
    (h : Span.read c.skipBlanks.rest = ⟨.ok l, taken, rest⟩) :
    c.next = (.ok ⟨l.kind, l.text, c.skipBlanks.position⟩, c.skipBlanks.moveTo taken rest) := by
  simp only [next, h]

/-- Where no token can be read, there is a fault. -/
theorem exists_fault_of_next {e : SourceError} (h : c.next = (.error e, after)) :
    ∃ fault : Fault, e = fault.toError c.skipBlanks.position := by
  unfold next at h
  cases hf : (Span.read c.skipBlanks.rest).found with
  | error f =>
    simp only [hf, Prod.mk.injEq, Except.error.injEq] at h
    exact ⟨f, h.1.symm⟩
  | ok l => simp [hf] at h

theorem position_of_next (h : c.next = (.ok token, after)) :
    token.position = c.skipBlanks.position := by
  obtain ⟨l, -, rfl, -⟩ := next_eq_ok h
  rfl

/-- What is known of the token. -/
theorem found_of_next (h : c.next = (.ok token, after)) (hk : token.kind ≠ .endOfInput) :
    ∃ l, (Span.read c.skipBlanks.rest).found = .ok l ∧ Span.Found c.skipBlanks.rest l ∧
      token = ⟨l.kind, l.text, c.skipBlanks.position⟩ ∧
      after = c.skipBlanks.moveTo (Span.read c.skipBlanks.rest).taken
        (Span.read c.skipBlanks.rest).rest := by
  obtain ⟨l, hl, rfl, hafter⟩ := next_eq_ok h
  have hcs := mt (Span.kind_eq_endOfInput_iff hl).2 hk
  exact ⟨l, hl, Span.found_of_read hl hcs, rfl, hafter⟩

theorem kind_ne_function_of_next (h : c.next = (.ok token, after)) : token.kind ≠ .function := by
  intro hf
  obtain ⟨l, -, hfound, rfl, -⟩ := found_of_next h (by rw [hf]; decide)
  simpa [show l.kind = .function from hf] using hfound.kind

theorem kind_eq_endOfInput_iff (h : c.next = (.ok token, after)) :
    token.kind = .endOfInput ↔ c.skipBlanks.rest = [] := by
  obtain ⟨l, hl, rfl, -⟩ := next_eq_ok h
  exact Span.kind_eq_endOfInput_iff hl

/-- A token other than the end of the input moves the cursor. -/
theorem position_lt_of_next (h : c.next = (.ok token, after)) (hk : token.kind ≠ .endOfInput) :
    c.position < after.position := by
  obtain ⟨l, -, hfound, -, rfl⟩ := found_of_next h hk
  obtain ⟨blanks, -, hp⟩ := c.reaches_skipBlanks
  have htaken : 0 < byteLength (Span.read c.skipBlanks.rest).taken := by
    obtain ⟨d, ds, hd⟩ := List.exists_cons_of_ne_nil hfound.taken
    have := d.utf8Size_pos
    simp only [hd, byteLength_cons]
    omega
  simp only [moveTo]
  omega

theorem length_lt_of_next (h : c.next = (.ok token, after)) (hk : token.kind ≠ .endOfInput) :
    after.rest.length < c.rest.length := by
  have hreach : c.Reaches after := by simpa [h] using c.reaches_next
  exact hreach.length_lt (Nat.ne_of_gt (position_lt_of_next h hk))

/-- A word is what the text goes on with, and what a look ahead has seen. -/
theorem rest_of_word (h : c.next = (.ok token, after)) (hk : token.kind = .word) :
    c.skipBlanks.rest = token.text.toList ++ after.rest ∧
      c.skipBlanks.peekWord? = some token.text := by
  obtain ⟨l, hl, hfound, rfl, rfl⟩ := found_of_next h (by rw [hk]; decide)
  obtain ⟨⟨d, ds, hcs, hd⟩, hread⟩ := hfound.word hk
  have htext : l.text = String.ofList (splitWord c.skipBlanks.rest).1 := by
    rw [hread] at hl
    simp only [Span.plain, Except.ok.injEq] at hl
    rw [← hl]
  constructor
  · simp only [hread, Span.plain, moveTo, htext, String.toList_ofList]
    exact (splitWord_append _).symm
  · simp [peekWord?, hcs, hd, htext]

theorem skipBlanks_of_not_isBlank {d : Char} {rest : List Char} (h : c.rest = d :: rest)
    (hd : Text.isBlank d = false) : c.skipBlanks = c := by
  obtain ⟨position, cs⟩ := c
  subst h
  simp [skipBlanks, moveTo, hd]

/-- Right in front of a parenthesis, the parenthesis is the next token. -/
theorem next_leftParen (h : c.current? = some '(') :
    ∃ after, c.next = (.ok ⟨.leftParen, "(", c.position⟩, after) := by
  obtain ⟨rest, hrest⟩ := List.head?_eq_some_iff.1 h
  have hblanks := skipBlanks_of_not_isBlank hrest (by decide)
  exact ⟨_, by simp [next, hblanks, hrest, Span.read_leftParen, Span.plain]; rfl⟩

/-! ### All tokens -/

theorem next_of_rest_eq_nil (h : c.rest = []) :
    c.next = (.ok ⟨.endOfInput, "", c.position⟩, c) := by
  obtain ⟨position, cs⟩ := c
  subst h
  rfl

/-- Any bound that is large enough reads the same tokens. -/
theorem tokensWithin_eq_tokens {bound : Nat} (h : c.rest.length ≤ bound) :
    c.tokensWithin bound = c.tokens := by
  unfold tokens
  induction hn : c.rest.length using Nat.strongRecOn generalizing c bound with
  | ind n ih =>
    cases n with
    | zero =>
      have hnext := next_of_rest_eq_nil (List.length_eq_zero_iff.1 hn)
      cases bound with
      | zero => rfl
      | succ bound => simp [tokensWithin, hnext]
    | succ n =>
      cases bound with
      | zero => omega
      | succ bound =>
        rw [tokensWithin, tokensWithin]
        cases hnext : c.next with
        | mk result after =>
          cases result with
          | error e => rfl
          | ok token =>
            by_cases hk : token.kind = .endOfInput
            · simp [hk]
            · have hlt := length_lt_of_next hnext hk
              -- Both bounds are enough for what is left after the token.
              have h1 : after.tokensWithin bound = after.tokensWithin after.rest.length :=
                ih after.rest.length (by omega) (by omega) rfl
              have h2 : after.tokensWithin n = after.tokensWithin after.rest.length :=
                ih after.rest.length (by omega) (by omega) rfl
              simp only [hk, if_false, h1, h2]

theorem tokens_of_next_error {e : SourceError} (h : c.next = (.error e, after)) :
    c.tokens = .error e := by
  rw [← tokensWithin_eq_tokens (Nat.le_succ _), tokensWithin, h]

theorem tokens_of_next_ok (h : c.next = (.ok token, after)) :
    c.tokens = if token.kind = .endOfInput then .ok [token]
      else after.tokens.map (token :: ·) := by
  rw [← tokensWithin_eq_tokens (Nat.le_succ _), tokensWithin, h]
  by_cases hk : token.kind = .endOfInput
  · simp [hk]
  · simp only [hk, if_false]
    rw [tokensWithin_eq_tokens (Nat.le_of_lt (length_lt_of_next h hk))]

/-- Induction on the places that reading goes through, up to the end of the input or an error. -/
theorem next_induct {P : Cursor → Prop}
    (error : ∀ c e after, next c = (.error e, after) → P c)
    (finish : ∀ c token after, next c = (.ok token, after) → token.kind = .endOfInput → P c)
    (token : ∀ c token after, next c = (.ok token, after) → token.kind ≠ .endOfInput →
      P after → P c) (c : Cursor) : P c := by
  induction hn : c.rest.length using Nat.strongRecOn generalizing c with
  | ind n ih =>
    cases hnext : c.next with
    | mk result after =>
      cases result with
      | error e => exact error c e after hnext
      | ok t =>
        by_cases hk : t.kind = .endOfInput
        · exact finish c t after hnext hk
        · exact token c t after hnext hk (ih _ (hn ▸ length_lt_of_next hnext hk) after rfl)

/-- Induction on the tokens that are scanned from a place. -/
theorem tokens_induct {P : Cursor → List Token → Prop}
    (finish : ∀ c after token, next c = (.ok token, after) → token.kind = .endOfInput → P c [token])
    (token : ∀ c after token tokens, next c = (.ok token, after) → token.kind ≠ .endOfInput →
      P after tokens → P c (token :: tokens))
    {tokens : List Token} (h : c.tokens = .ok tokens) : P c tokens := by
  revert tokens
  refine next_induct (P := fun c => ∀ {tokens}, c.tokens = .ok tokens → P c tokens) ?_ ?_ ?_ c
  · intro c e after hnext tokens h
    rw [tokens_of_next_error hnext] at h
    cases h
  · intro c t after hnext hk tokens h
    rw [tokens_of_next_ok hnext, if_pos hk] at h
    cases h
    exact finish c after t hnext hk
  · intro c t after hnext hk ih tokens h
    rw [tokens_of_next_ok hnext, if_neg hk] at h
    cases hrest : after.tokens with
    | error e => simp [hrest, Except.map] at h
    | ok rest =>
      rw [hrest] at h
      cases h
      exact token c after t rest hnext hk (ih hrest)

/-- The plain scan fails where a token cannot be read, at a place that it comes to. -/
theorem exists_next_of_tokens {c : Cursor} {e : SourceError} (h : c.tokens = .error e) :
    ∃ place after, c.Reaches place ∧ place.next = (.error e, after) := by
  revert e
  refine next_induct (P := fun c => ∀ {e : SourceError}, c.tokens = .error e →
    ∃ place after, c.Reaches place ∧ place.next = (.error e, after)) ?_ ?_ ?_ c
  · intro c e' after hnext e h
    rw [tokens_of_next_error hnext] at h
    cases h
    exact ⟨c, after, .refl c, hnext⟩
  · intro c token after hnext hk e h
    rw [tokens_of_next_ok hnext, if_pos hk] at h
    cases h
  · intro c token after hnext hk ih e h
    rw [tokens_of_next_ok hnext, if_neg hk] at h
    cases hrest : after.tokens with
    | error e' =>
      rw [hrest] at h
      cases h
      obtain ⟨place, behind, hreaches, herror⟩ := ih hrest
      have hafter : c.Reaches after := by simpa [hnext] using c.reaches_next
      exact ⟨place, behind, hafter.trans hreaches, herror⟩
    | ok tokens => simp [hrest, Except.map] at h

/-- The plain scan fails only where there is a fault. -/
theorem exists_fault_of_tokens {c : Cursor} {e : SourceError} (h : c.tokens = .error e) :
    ∃ (fault : Fault) (place : Cursor), c.Reaches place ∧ e = fault.toError place.position := by
  obtain ⟨place, after, hreaches, hnext⟩ := exists_next_of_tokens h
  obtain ⟨fault, hfault⟩ := exists_fault_of_next hnext
  exact ⟨fault, place.skipBlanks, hreaches.trans place.reaches_skipBlanks, hfault⟩

/-- The plain scan takes characters at every turn, so it does not stall. -/
theorem tokens_ne_stalled (c : Cursor) (strategy : String) (position : Nat) :
    c.tokens ≠ .error (.stalled strategy position) := by
  intro h
  obtain ⟨fault, _, -, hfault⟩ := exists_fault_of_tokens h
  cases fault <;> cases hfault

end Cursor

end RowSieve

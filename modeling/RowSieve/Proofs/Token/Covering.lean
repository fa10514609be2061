import RowSieve.Proofs.Decimal.Spelling
import RowSieve.Proofs.Token.Lineend

/-!
# Tokens cover their source

Nothing of a source is lost when it is split into tokens: the source is the row of its `Piece`s,
each of them blanks and what spells a token, and the position of the token is the number of bytes in
front of its spelling (`scan_covers`).  Only the text of a literal or of a comment is not its
spelling.  `Lexeme.Spelled` says what the spelling of a token looks like, and every span that is
read is of that form (`Span.spelled_of_read`).
-/

namespace RowSieve

/-! ### Spellings -/

/-- How a comment with this inside is spelled, where `rest` comes behind it. -/
inductive SpellsComment (inside : List Char) : (span rest : List Char) → Prop where
  /-- It goes on to the end of the line. -/
  | line {rest} : '\n' ∉ inside → BeginsLine rest → SpellsComment inside ('-' :: '-' :: inside) rest
  /-- It goes on to the first closing mark.  No closing mark begins inside, and so none ends with
  the first character of the one that closes the comment either. -/
  | block {rest} : ¬ ['*', '/'] <:+: inside →
    SpellsComment inside ('/' :: '*' :: inside ++ ['*', '/']) rest

/-- How characters spell a token, where `rest` comes behind them. -/
structure Lexeme.Spelled (l : Lexeme) (span rest : List Char) : Prop where
  /-- A token that is neither a literal nor a comment says what it is spelled with. -/
  text : l.kind ≠ .text → l.kind ≠ .comment → l.text = String.ofList span
  /-- A literal stands between quotes. -/
  literal : l.kind = .text →
    ∃ quote inside, (quote = '\'' ∨ quote = '"') ∧ span = quote :: inside ++ [quote]
  /-- A comment says what is inside it, without the blanks at both ends. -/
  comment : l.kind = .comment →
    ∃ inside, SpellsComment inside span rest ∧ l.text = String.ofList (Text.trimChars inside)
  /-- A number is spelled with digits, and possibly a point between them. -/
  number : l.kind = .number → Decimal.Numeral l.text.toList

/-- A literal ends with its closing quote. -/
theorem Literal.suffix_taken {quote : Char} {cs : List Char} {l : Literal}
    (h : Literal.read quote cs = some l) : [quote] <:+ l.taken := by
  fun_induction Literal.read quote cs generalizing l with
  | case1 => cases h
  | case2 => cases h; exact List.suffix_rfl
  | case3 => cases h
  | case4 rest ih =>
    obtain ⟨m, hm, rfl⟩ := Option.map_eq_some_iff.1 h
    exact (ih hm).trans (List.suffix_append _ _)
  | case5 => cases h; exact List.suffix_rfl
  | case6 d rest _ ih =>
    obtain ⟨m, hm, rfl⟩ := Option.map_eq_some_iff.1 h
    exact (ih hm).trans (List.suffix_append _ _)
  | case7 c d rest _ _ ih =>
    obtain ⟨m, hm, rfl⟩ := Option.map_eq_some_iff.1 h
    exact (ih hm).trans (List.suffix_append _ _)

/-- The inside of a comment goes up to the first closing mark. -/
theorem not_isInfix_of_splitComment {cs inside rest : List Char}
    (h : splitComment cs = some (inside, rest)) : ¬ ['*', '/'] <:+: inside := by
  fun_induction splitComment cs generalizing inside rest with
  | case1 => cases h
  | case2 => cases h
  | case3 => cases h; simp
  | case4 c d rest' hc ih =>
    obtain ⟨⟨i, r⟩, hi, heq⟩ := Option.map_eq_some_iff.1 h
    cases heq
    rw [List.infix_cons_iff, not_or]
    refine ⟨fun hprefix => hc ?_, ih hi⟩
    -- What is left of a mark at the front would be `d`, with which the rest begins.
    have hi := splitComment_append hi
    obtain ⟨more, hmore⟩ := hprefix
    cases hmore
    cases hi
    rfl

namespace Span

variable {c : Char} {cs : List Char} {l : Lexeme}

theorem spelled_plain (kind : Kind) (span rest : List Char) (htext : kind ≠ .text)
    (hcomment : kind ≠ .comment) (hnumber : kind = .number → Decimal.Numeral span) :
    Lexeme.Spelled ⟨kind, String.ofList span⟩ span rest where
  text _ _ := rfl
  literal h := absurd h htext
  comment h := absurd h hcomment
  number h := by simpa using hnumber h

theorem spelled_comment {inside span rest : List Char} (h : SpellsComment inside span rest) :
    Lexeme.Spelled ⟨.comment, String.ofList (Text.trimChars inside)⟩ span rest where
  text _ hne := absurd rfl hne
  literal := nofun
  comment _ := ⟨inside, h, rfl⟩
  number := nofun

theorem spelled_lineComment (h : (lineComment cs).found = .ok l) :
    l.Spelled (lineComment cs).taken (lineComment cs).rest := by
  cases h
  refine spelled_comment (.line (fun hmem => ?_) fun c hc => ?_)
  · simpa using List.mem_takeWhile_imp hmem
  · have hnot := List.head?_dropWhile_not (· ≠ '\n') cs
    rw [show (cs.dropWhile (· ≠ '\n')).head? = some c from hc] at hnot
    simpa using hnot

theorem spelled_blockComment (h : (blockComment cs).found = .ok l) :
    l.Spelled (blockComment cs).taken (blockComment cs).rest := by
  unfold blockComment at h ⊢
  split at h
  next inside rest hsplit =>
    cases h
    exact spelled_comment (.block (not_isInfix_of_splitComment hsplit))
  next => cases h

theorem spelled_quotation (hc : c = '\'' ∨ c = '"') (h : (quotation c cs).found = .ok l) :
    l.Spelled (quotation c cs).taken (quotation c cs).rest := by
  unfold quotation at h ⊢
  split at h
  next m hread =>
    cases h
    obtain ⟨inside, hinside⟩ := Literal.suffix_taken hread
    exact ⟨fun hne => absurd rfl hne, fun _ => ⟨c, inside, hc, congrArg (c :: ·) hinside.symm⟩,
      nofun, nofun⟩
  next => cases h

theorem spelled_significant (h : (significant c cs).found = .ok l) :
    l.Spelled (significant c cs).taken (significant c cs).rest := by
  unfold significant at h ⊢
  split at h
  next hc =>
    rw [if_pos hc]
    exact spelled_quotation (by simpa using hc) h
  next hc =>
    rw [if_neg hc]
    split at h
    next hd =>
      rw [if_pos hd]
      cases h
      exact spelled_plain _ _ _ (by decide) (by decide) fun _ => Decimal.numeral_splitNumber hd
    next hd =>
      rw [if_neg hd]
      split at h
      next hw =>
        rw [if_pos hw]
        cases h
        exact spelled_plain _ _ _ (by decide) (by decide) fun h => absurd h (by decide)
      next hw =>
        rw [if_neg hw]
        split at h
        next kind size hm =>
          cases h
          obtain ⟨-, -, hkind⟩ := mark?_spec hm
          simp only [List.mem_cons, List.not_mem_nil, or_false, not_or] at hkind
          obtain ⟨-, hcomment, -, hnumber, htext, -⟩ := hkind
          exact spelled_plain _ _ _ htext hcomment fun h => absurd h hnumber
        next => cases h

/-- **Every token is spelled as tokens of its kind are.** -/
theorem spelled_of_read (h : (read cs).found = .ok l) :
    l.Spelled (read cs).taken (read cs).rest := by
  unfold read at h ⊢
  split at h
  · cases h
    exact spelled_plain .endOfInput [] [] (by decide) (by decide) fun h => absurd h (by decide)
  · exact spelled_lineComment h
  · exact spelled_blockComment h
  · exact spelled_significant h

end Span

/-! ### Pieces of a source -/

/-- A piece of a source: a token with what stands in front of it. -/
structure Piece where
  /-- The characters between the token before and this one. -/
  gap : List Char
  /-- The token. -/
  token : Token
  /-- The characters that spell it. -/
  span : List Char

namespace Piece

/-- The characters of a piece. -/
def chars (p : Piece) : List Char := p.gap ++ p.span

/-- The characters of pieces, one behind the other. -/
def charsAll (ps : List Piece) : List Char := ps.flatMap chars

@[simp] theorem charsAll_nil : charsAll [] = [] := rfl

@[simp] theorem charsAll_cons (p : Piece) (ps : List Piece) :
    charsAll (p :: ps) = p.chars ++ charsAll ps := List.flatMap_cons

@[simp] theorem charsAll_append (ps qs : List Piece) :
    charsAll (ps ++ qs) = charsAll ps ++ charsAll qs := List.flatMap_append

/-- The piece begins at a byte of the source, and `rest` comes behind it. -/
structure Stands (start : Nat) (rest : List Char) (p : Piece) : Prop where
  /-- Only blanks are between tokens. -/
  gap : ∀ c ∈ p.gap, Text.isBlank c = true
  /-- The token begins behind them. -/
  position : p.token.position = start + byteLength p.gap
  /-- The token is spelled as tokens of its kind are. -/
  spelled : Lexeme.Spelled ⟨p.token.kind, p.token.text⟩ p.span rest

/-- The pieces make up characters that begin at a byte of the source, and each stands where the
pieces in front of it end. -/
structure MakeUp (start : Nat) (cs : List Char) (ps : List Piece) : Prop where
  /-- Nothing is lost. -/
  chars : cs = charsAll ps
  /-- Every piece is in its place. -/
  stands : ∀ front p back, ps = front ++ p :: back →
    p.Stands (start + byteLength (charsAll front)) (charsAll back)

theorem makeUp_nil (start : Nat) : MakeUp start [] [] := ⟨rfl, fun front _ _ h => by simp at h⟩

theorem MakeUp.cons {start : Nat} {p : Piece} {ps : List Piece} {rest : List Char}
    (hps : MakeUp (start + byteLength p.chars) rest ps) (hp : p.Stands start rest) :
    MakeUp start (p.chars ++ rest) (p :: ps) := by
  obtain ⟨rfl, hstands⟩ := hps
  refine ⟨rfl, fun front q back heq => ?_⟩
  cases front with
  | nil =>
    cases heq
    exact hp
  | cons q' front =>
    cases heq
    rw [charsAll_cons, byteLength_append, ← Nat.add_assoc]
    exact hstands front q back rfl

end Piece

namespace Cursor

variable {c after : Cursor} {token : Token} {tokens : List Token}

/-- The next token makes a piece of what is passed. -/
theorem exists_piece_of_next (h : c.next = (.ok token, after)) :
    ∃ p : Piece, p.token = token ∧ c.rest = p.chars ++ after.rest ∧
      after.position = c.position + byteLength p.chars ∧ p.Stands c.position after.rest := by
  obtain ⟨l, hl, rfl, rfl⟩ := next_eq_ok h
  refine ⟨⟨c.rest.takeWhile Text.isBlank, _, (Span.read c.skipBlanks.rest).taken⟩, rfl, ?_, ?_, ?_⟩
  · rw [Piece.chars, List.append_assoc]
    change c.rest = _ ++ ((Span.read c.skipBlanks.rest).taken ++ (Span.read c.skipBlanks.rest).rest)
    rw [Span.taken_append_rest]
    exact List.takeWhile_append_dropWhile.symm
  · rw [Piece.chars, byteLength_append, ← Nat.add_assoc]
    rfl
  · exact ⟨fun d hd => List.mem_takeWhile_imp hd, rfl, Span.spelled_of_read hl⟩

/-- The end of the input is found behind everything else. -/
theorem next_endOfInput (h : c.next = (.ok token, after)) (hk : token.kind = .endOfInput) :
    token = ⟨.endOfInput, "", c.position + byteLength c.rest⟩ ∧ after.rest = [] := by
  have hrest := (kind_eq_endOfInput_iff h).1 hk
  obtain ⟨blanks, hblanks, hposition⟩ := c.reaches_skipBlanks
  obtain ⟨l, hl, rfl, rfl⟩ := next_eq_ok h
  rw [hrest, List.append_nil] at hblanks
  rw [hrest] at hl ⊢
  cases hl
  exact ⟨by rw [hposition, hblanks], rfl⟩

/-- **The tokens from a place on make up what is left of the source.** -/
theorem exists_makeUp (h : c.tokens = .ok tokens) :
    ∃ ps : List Piece, ps.map Piece.token = tokens ∧ Piece.MakeUp c.position c.rest ps := by
  refine tokens_induct
    (P := fun c tokens => ∃ ps : List Piece, ps.map Piece.token = tokens ∧
      Piece.MakeUp c.position c.rest ps)
    (fun c after token hnext hk => ?_) (fun c after token tokens hnext hk ih => ?_) h
  · obtain ⟨p, htoken, hrest, -, hp⟩ := exists_piece_of_next hnext
    rw [(next_endOfInput hnext hk).2] at hrest hp
    rw [hrest]
    exact ⟨[p], congrArg (fun t => [t]) htoken, (Piece.makeUp_nil _).cons hp⟩
  · obtain ⟨p, htoken, hrest, hposition, hp⟩ := exists_piece_of_next hnext
    obtain ⟨ps, htokens, hps⟩ := ih
    rw [hrest]
    exact ⟨p :: ps, congrArg₂ List.cons htoken htokens, (hposition ▸ hps).cons hp⟩

/-- A token other than the end of the input takes up bytes. -/
theorem token_position_lt_of_next (h : c.next = (.ok token, after)) (hk : token.kind ≠ .endOfInput) :
    token.position < after.position := by
  obtain ⟨l, -, hfound, rfl, rfl⟩ := found_of_next h hk
  have htaken := List.length_pos_iff.2 hfound.taken
  have hbytes := length_le_byteLength (Span.read c.skipBlanks.rest).taken
  simp only [moveTo]
  omega

/-- Tokens stand one behind the other. -/
theorem pairwise_position (h : c.tokens = .ok tokens) :
    tokens.Pairwise (fun t u => t.position < u.position) ∧
      ∀ t ∈ tokens, c.position ≤ t.position := by
  have hle : ∀ {c after : Cursor} {token : Token}, c.next = (.ok token, after) →
      c.position ≤ token.position := fun hnext => by
    obtain ⟨p, rfl, -, -, hp⟩ := exists_piece_of_next hnext
    rw [hp.position]
    exact Nat.le_add_right _ _
  refine tokens_induct
    (P := fun c tokens => tokens.Pairwise (fun t u => t.position < u.position) ∧
      ∀ t ∈ tokens, c.position ≤ t.position)
    (fun c after token hnext hk => ?_) (fun c after token tokens hnext hk ih => ?_) h
  · exact ⟨List.pairwise_singleton _ _, by simpa using hle hnext⟩
  · obtain ⟨hpairwise, hall⟩ := ih
    have hlt := token_position_lt_of_next hnext hk
    have htoken := hle hnext
    refine ⟨List.pairwise_cons.2 ⟨fun u hu => hlt.trans_le (hall u hu), hpairwise⟩,
      List.forall_mem_cons.2 ⟨htoken, fun u hu => ?_⟩⟩
    exact htoken.trans (hlt.le.trans (hall u hu))

/-- The end of the input is the last token, and no other. -/
theorem exists_eq_append_endOfInput (h : c.tokens = .ok tokens) :
    ∃ front, tokens = front ++ [⟨.endOfInput, "", c.position + byteLength c.rest⟩] ∧
      ∀ t ∈ front, t.kind ≠ .endOfInput := by
  refine tokens_induct
    (P := fun c tokens => ∃ front,
      tokens = front ++ [⟨.endOfInput, "", c.position + byteLength c.rest⟩] ∧
      ∀ t ∈ front, t.kind ≠ .endOfInput)
    (fun c after token hnext hk => ?_) (fun c after token tokens hnext hk ih => ?_) h
  · exact ⟨[], congrArg (fun t => [t]) (next_endOfInput hnext hk).1, nofun⟩
  · obtain ⟨p, -, hrest, hposition, -⟩ := exists_piece_of_next hnext
    obtain ⟨front, rfl, hfront⟩ := ih
    refine ⟨token :: front, ?_, List.forall_mem_cons.2 ⟨hk, hfront⟩⟩
    rw [hrest, byteLength_append, ← Nat.add_assoc, ← hposition]
    rfl

end Cursor

/-- A character begins behind the bytes of the characters in front of it. -/
theorem isValid_byteLength {s : String} {front back : List Char} (h : s.toList = front ++ back) :
    String.Pos.Raw.IsValid s ⟨byteLength front⟩ := by
  refine String.Pos.Raw.isValid_iff_exists_append.2
    ⟨String.ofList front, String.ofList back, ?_, ?_⟩
  · rw [← String.ofList_append, ← h, String.ofList_toList]
  · have hbytes := byteLength_toList (String.ofList front)
    rw [String.toList_ofList] at hbytes
    rw [hbytes]
    rfl

/-- **Nothing is lost.**  The tokens of a source stand one behind the other, at places where
characters begin, up to the end of the input, which is the last of them and stands behind the last
byte.  The source is made up of the spellings of its tokens, with blanks between them. -/
theorem scan_covers {source : String} {tokens : List Token} (h : scan source = .ok tokens) :
    tokens.Pairwise (fun t u => t.position < u.position) ∧
      (∀ t ∈ tokens, String.Pos.Raw.IsValid source ⟨t.position⟩) ∧
      (∃ front, tokens = front ++ [⟨.endOfInput, "", source.utf8ByteSize⟩] ∧
        ∀ t ∈ front, t.kind ≠ .endOfInput) ∧
      ∃ ps : List Piece, ps.map Piece.token = tokens ∧ Piece.MakeUp 0 source.toList ps := by
  obtain ⟨ps, htokens, hps⟩ := Cursor.exists_makeUp h
  obtain ⟨front, hfront, hends⟩ := Cursor.exists_eq_append_endOfInput h
  refine ⟨(Cursor.pairwise_position h).1, fun t ht => ?_, ⟨front, ?_, hends⟩, ps, htokens, hps⟩
  · rw [← htokens] at ht
    obtain ⟨p, hp, rfl⟩ := List.mem_map.1 ht
    obtain ⟨before, behind, rfl⟩ := List.append_of_mem hp
    have hsource : source.toList =
        (Piece.charsAll before ++ p.gap) ++ (p.span ++ Piece.charsAll behind) := by
      rw [show source.toList = _ from hps.chars]
      simp [Piece.chars]
    have hposition := (hps.stands before p behind rfl).position
    rw [hposition, Nat.add_assoc, ← byteLength_append]
    simpa [Cursor.start] using isValid_byteLength hsource
  · rw [hfront]
    simp [Cursor.start, byteLength_toList]

/-- Comments, a literal with two bytes for a character and a quote inside, and a point that does not
belong to the number in front of it. -/
theorem scan_covers_literal :
    ∃ tokens, scan "/**/ a<>'é''' -- ü \n 7.5." = .ok tokens ∧
      tokens.map (·.position) = [0, 5, 6, 8, 15, 23, 26, 27] ∧
      ∃ ps : List Piece, ps.map Piece.token = tokens ∧
        Piece.MakeUp 0 "/**/ a<>'é''' -- ü \n 7.5.".toList ps := by
  have hscan : scan "/**/ a<>'é''' -- ü \n 7.5." = .ok [⟨.comment, "", 0⟩, ⟨.word, "a", 5⟩,
      ⟨.notEqual, "<>", 6⟩, ⟨.text, "é'", 8⟩, ⟨.comment, "ü", 15⟩, ⟨.number, "7.5", 23⟩,
      ⟨.dot, ".", 26⟩, ⟨.endOfInput, "", 27⟩] := by rfl
  exact ⟨_, hscan, rfl, (scan_covers hscan).2.2.2⟩

end RowSieve

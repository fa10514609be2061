import RowSieve.Proofs.Grammar.Relabelling
import RowSieve.Proofs.Token.Spelling

/-!
# Tokens inside clauses

While a clause of an open statement is split into tokens, the kind of a word is determined: it
depends on the keywords of the dialect and on the character behind the word.  `Dialect.Lists` says
which tokens the rest of a source makes there.  It is established from the end of a source to its
beginning, one token at a time (`Dialect.Lists.word`, `Dialect.Lists.other`); a word that opens the
next clause is such a token too (`Dialect.Lists.clauseWord`), although the strategies take turns
there.  `Dialect.exists_tokenize_of_lists` begins the first clause.
-/

namespace RowSieve

variable {σ : Type}

/-- What a token is and what it says, wherever it stands. -/
def Token.lexeme (t : Token) : Lexeme := ⟨t.kind, t.text⟩

/-- The kind that a token gets inside a clause, in front of `rest`. -/
def Dialect.kindInside (d : Dialect σ) (l : Lexeme) (rest : List Char) : Kind :=
  if l.kind = .word then
    if rest.head? = some '(' then .function else (d.keyword? l.text).getD .word
  else l.kind

namespace Scan

variable {s : Scan σ} {c : Char} {cs : List Char}

/-- Where a clause does not end. -/
theorem clauseEnds_eq_false (hrest : s.cursor.skipBlanks.rest = c :: cs) (hc : c ≠ ';')
    (hword : isWordStart c = true → ∀ kind,
      s.dialect.keyword? (String.ofList (splitWord (c :: cs)).1) = some kind →
        s.dialect.opensClause kind = false) : s.clauseEnds = false := by
  have hpeek : (s.cursor.skipBlanks.peekWord?.bind s.dialect.keyword?).any
      s.dialect.opensClause = false := by
    simp only [Cursor.peekWord?, hrest]
    by_cases hstart : isWordStart c = true
    · rw [if_pos hstart, Option.bind_some]
      cases hk : s.dialect.keyword? (String.ofList (splitWord (c :: cs)).1) with
      | none => rfl
      | some kind => exact hword hstart kind hk
    · rw [if_neg hstart]
      rfl
  simp only [clauseEnds, hpeek]
  simp [Cursor.atEnd, Cursor.current?, hrest, hc]

end Scan

namespace Relay

variable [Strategies σ] {d : Dialect σ} {st : Statement σ} {t : Relay σ} {token : Token}
  {after : Cursor}

/-- A clause of an open statement goes on, after a token. -/
structure Inside (d : Dialect σ) (st : Statement σ) (t : Relay σ) : Prop where
  /-- The dialect whose keywords count. -/
  dialect : t.scan.dialect = d
  /-- The statement that is open. -/
  statement : t.scan.statement = some st
  /-- All of its clauses are split by the strategy for lists. -/
  listed : ∀ c ∈ st.clauses, c.strategy = .list
  /-- That strategy takes the next step. -/
  current : t.current = .list
  /-- The last step has taken a token. -/
  idle : t.idle = 0

/-- Where the clause does not end, the next token is taken. -/
theorem Inside.exists_run (h : t.Inside d st) (hends : t.scan.clauseEnds = false)
    (hnext : t.scan.cursor.next = (.ok token, after)) (hk : token.kind ≠ .endOfInput) :
    ∃ u : Relay σ, u.Inside d st ∧ t.run = u.run ∧ u.scan.cursor = after ∧
      u.scan.tokens.toList = t.scan.tokens.toList ++
        [{ token with kind := d.kindInside token.lexeme after.rest }] := by
  have hp : after.position ≠ t.scan.cursor.position :=
    Nat.ne_of_gt (Cursor.position_lt_of_next hnext hk)
  obtain ⟨rfl, hstatement, hlisted, hcurrent, hidle⟩ := h
  refine ⟨⟨{ t.scan with cursor := after, tokens := t.scan.tokens.push _ }, .list, 0⟩,
    ⟨rfl, hstatement, hlisted, rfl, rfl⟩, ?_, rfl, by simp; rfl⟩
  apply run_of_step_inr
  simp only [step, hcurrent, Scan.advance, Scan.listStep, hends, hnext]
  simp [handOver, hp, Scan.emit, Scan.wordKind, Dialect.kindInside, Token.lexeme, Cursor.current?]
  rfl

/-- Between clauses, a word that opens a clause of the statement passes the turn on to it.  The
statement is the open one, or the word opens it. -/
theorem exists_run_of_clause {kind : Kind} {clause : Clause σ} (hd : t.scan.dialect = d)
    (hcurrent : t.current = .statement)
    (hstatement : t.scan.statement.or (d.statement? kind) = some st)
    (hlisted : ∀ c ∈ st.clauses, c.strategy = .list) (hclause : st.clause? kind = some clause)
    (hnext : t.scan.cursor.next = (.ok token, after)) (hword : token.kind = .word)
    (hw : d.keyword? token.text = some kind) :
    ∃ u : Relay σ, u.Inside d st ∧ t.run = u.run ∧ u.scan.cursor = after ∧
      u.scan.tokens.toList = t.scan.tokens.toList ++ [{ token with kind := kind }] := by
  have hp : after.position ≠ t.scan.cursor.position :=
    Nat.ne_of_gt (Cursor.position_lt_of_next hnext (by rw [hword]; decide))
  have hlist : clause.strategy = .list := hlisted clause (List.mem_of_find?_eq_some hclause)
  subst hd
  obtain ⟨clause?, scan, hopen, hstep⟩ := Scan.statementStep_of_keyword hnext hword hw
  simp only [Scan.openClause, Scan.emit, hstatement, Option.bind_some, hclause,
    Prod.mk.injEq] at hopen
  obtain ⟨rfl, hscan⟩ := hopen
  refine ⟨⟨scan, .list, 0⟩, ⟨by rw [← hscan], by rw [← hscan], hlisted, rfl, rfl⟩, ?_,
    by rw [← hscan], by rw [← hscan]; simp⟩
  apply run_of_step_inr
  have hmoved : scan.cursor.position ≠ t.scan.cursor.position := by rwa [← hscan]
  simp [step, hcurrent, Scan.advance, hstep, handOver, hmoved, hlist]

/-- Inside a clause, such a word ends the clause first. -/
theorem Inside.exists_run_of_clause {kind : Kind} {clause : Clause σ} (h : t.Inside d st)
    (hopens : d.opensClause kind = true) (hclause : st.clause? kind = some clause)
    (hnext : t.scan.cursor.next = (.ok token, after)) (hword : token.kind = .word)
    (hw : d.keyword? token.text = some kind) :
    ∃ u : Relay σ, u.Inside d st ∧ t.run = u.run ∧ u.scan.cursor = after ∧
      u.scan.tokens.toList = t.scan.tokens.toList ++ [{ token with kind := kind }] := by
  obtain ⟨rfl, hstatement, hlisted, hcurrent, hidle⟩ := h
  -- The strategy for lists takes nothing: it is the turn of the one for statements.
  rw [run_of_clauseEnds ⟨hcurrent, hidle⟩ (Scan.clauseEnds_of_word hnext hword hw hopens)]
  exact Relay.exists_run_of_clause (t := ⟨t.scan, .statement, 1⟩) rfl rfl (by simp [hstatement])
    hlisted hclause hnext hword hw

omit [Strategies σ] in
theorem Inside.ready (h : t.Inside d st) : t.Ready d where
  dialect := h.dialect
  listed := by
    intro st' hst'
    rw [h.statement] at hst'
    cases hst'
    exact h.listed
  turn := .inr ⟨h.current, h.idle⟩

end Relay

namespace Dialect

variable [Strategies σ] {d : Dialect σ} {st : Statement σ} {c : Char} {cs rest : List Char}
  {ls : List Lexeme} {l : Lexeme} {kind : Kind} {clause : Clause σ}

/-- Inside a clause, what is left of a source makes these tokens, which are no comments, and the
end of the input. -/
structure Lists (d : Dialect σ) (st : Statement σ) (cs : List Char) (ls : List Lexeme) : Prop where
  /-- The relay makes them, whatever it has made before. -/
  run : ∀ t : Relay σ, t.Inside d st → t.scan.cursor.skipBlanks.rest = cs.dropWhile Text.isBlank →
    ∃ ts, t.run = .ok (t.scan.tokens.toList ++ ts) ∧
      ts.map Token.lexeme = ls ++ [⟨.endOfInput, ""⟩]
  /-- There are no comments. -/
  significant : ∀ l ∈ ls, l.kind ≠ .comment

theorem lists_nil : d.Lists st [] [] where
  run t ht hrest := by
    have hspan : Span.read t.scan.cursor.skipBlanks.rest = ⟨.ok ⟨.endOfInput, ""⟩, [], []⟩ := by
      rw [hrest]
      rfl
    exact ⟨_, Relay.run_of_next_finish ht.ready (Cursor.next_of_read hspan) rfl, rfl⟩
  significant := by simp

/-- Blanks in front make no difference. -/
theorem lists_blank : d.Lists st (' ' :: cs) ls ↔ d.Lists st cs ls := by
  have hblank : (' ' :: cs).dropWhile Text.isBlank = cs.dropWhile Text.isBlank := rfl
  constructor
  · exact fun h => ⟨by rw [← hblank]; exact h.run, h.significant⟩
  · exact fun h => ⟨by rw [hblank]; exact h.run, h.significant⟩

/-- One more token in front, where the relay takes one. -/
theorem Lists.cons (h : d.Lists st rest ls) (hl : l.kind ≠ .comment) (hc : Text.isBlank c = false)
    (hstep : ∀ t : Relay σ, t.Inside d st → t.scan.cursor.skipBlanks.rest = c :: cs →
      ∃ (u : Relay σ) (token : Token), u.Inside d st ∧ t.run = u.run ∧ u.scan.cursor.rest = rest ∧
        u.scan.tokens.toList = t.scan.tokens.toList ++ [token] ∧ token.lexeme = l) :
    d.Lists st (c :: cs) (l :: ls) where
  run t ht hrest := by
    rw [List.dropWhile_cons_of_neg (by simp [hc])] at hrest
    obtain ⟨u, token, hu, hrun, hafter, htokens, hlexeme⟩ := hstep t ht hrest
    obtain ⟨ts, hts, hlexemes⟩ := h.run u hu (by rw [← hafter]; rfl)
    refine ⟨token :: ts, ?_, by simp [hlexemes, hlexeme]⟩
    rw [hrun, hts, htokens, List.append_assoc]
    rfl
  significant := List.forall_mem_cons.2 ⟨hl, h.significant⟩

/-- What is read where a word stands. -/
theorem exists_read_word {w : String} (hw : IsWord w.toList)
    (hrest : ∀ c ∈ rest.head?, isWordChar c = false) :
    ∃ c cs, w.toList ++ rest = c :: cs ∧ isWordStart c = true ∧
      Span.read (c :: cs) = ⟨.ok ⟨.word, w⟩, w.toList, rest⟩ ∧
      splitWord (c :: cs) = (w.toList, rest) := by
  have hread := Span.read_word hw hrest
  have hsplit := splitWord_append_of_isWord hw hrest
  rw [Span.plain, String.ofList_toList] at hread
  obtain ⟨c, cs, hcs, hc⟩ : ∃ c cs, w.toList = c :: cs ∧ isWordStart c = true := by
    generalize w.toList = cs at hw
    obtain ⟨hc, -⟩ := hw
    exact ⟨_, _, rfl, hc⟩
  refine ⟨c, cs ++ rest, by rw [hcs]; rfl, hc, ?_, ?_⟩
  · rw [← List.cons_append, ← hcs, hread]
  · rw [← List.cons_append, ← hcs, hsplit]

/-- A token that ends no clause. -/
theorem Lists.token {taken : List Char} (h : d.Lists st rest ls)
    (hread : Span.read (c :: cs) = ⟨.ok l, taken, rest⟩) (hl : d.kindInside l rest ≠ .comment)
    (hc : Text.isBlank c = false) (hsemicolon : c ≠ ';')
    (hword : isWordStart c = true → ∀ kind,
      d.keyword? (String.ofList (splitWord (c :: cs)).1) = some kind → d.opensClause kind = false) :
    d.Lists st (c :: cs) (⟨d.kindInside l rest, l.text⟩ :: ls) := by
  have hfound : (Span.read (c :: cs)).found = .ok l := by rw [hread]
  have hkind : l.kind ∉ [Kind.endOfInput, .function] :=
    (Span.found_of_read hfound (by simp)).kind
  refine h.cons hl hc fun t ht hrest => ?_
  have hnext := Cursor.next_of_read (hrest ▸ hread)
  obtain ⟨u, hu, hrun, hafter, htokens⟩ :=
    ht.exists_run (Scan.clauseEnds_eq_false hrest hsemicolon (ht.dialect ▸ hword)) hnext
      fun hk => hkind (by simp [show l.kind = .endOfInput from hk])
  exact ⟨u, _, hu, hrun, by rw [hafter]; rfl, htokens, rfl⟩

/-- A token that is no word. -/
theorem Lists.other {taken : List Char} (h : d.Lists st rest ls)
    (hread : Span.read (c :: cs) = ⟨.ok l, taken, rest⟩) (hl : l.kind ∉ [Kind.word, .comment])
    (hc : Text.isBlank c = false ∧ c ≠ ';' ∧ isWordStart c = false) :
    d.Lists st (c :: cs) (l :: ls) := by
  simp only [List.mem_cons, List.not_mem_nil, or_false, not_or] at hl
  have hkind : d.kindInside l rest = l.kind := by rw [kindInside, if_neg hl.1]
  have := h.token hread (by rw [hkind]; exact hl.2) hc.1 hc.2.1 (by simp [hc.2.2])
  rwa [hkind] at this

/-- A word that opens no clause: a function in front of a parenthesis, else what it spells. -/
theorem Lists.word {w : String} (h : d.Lists st rest ls) (hw : IsWord w.toList)
    (hrest : ∀ c ∈ rest.head?, isWordChar c = false)
    (hcomment : d.kindInside ⟨.word, w⟩ rest ≠ .comment)
    (hopens : ∀ kind, d.keyword? w = some kind → d.opensClause kind = false) :
    d.Lists st (w.toList ++ rest) (⟨d.kindInside ⟨.word, w⟩ rest, w⟩ :: ls) := by
  obtain ⟨c, cs, hcs, hc, hread, hsplit⟩ := exists_read_word hw hrest
  rw [hcs]
  refine h.token hread hcomment (isBlank_eq_false_of_isWordStart hc)
    (ne_of_isWordStart hc (by decide)) fun _ kind => ?_
  rw [hsplit, String.ofList_toList]
  exact hopens kind

/-- A word that opens a clause of the statement. -/
theorem Lists.clauseWord {w : String} (h : d.Lists st rest ls) (hw : IsWord w.toList)
    (hrest : ∀ c ∈ rest.head?, isWordChar c = false) (hk : d.keyword? w = some kind)
    (hcomment : kind ≠ .comment) (hopens : d.opensClause kind = true)
    (hclause : st.clause? kind = some clause) :
    d.Lists st (w.toList ++ rest) (⟨kind, w⟩ :: ls) := by
  obtain ⟨c, cs, hcs, hc, hread, -⟩ := exists_read_word hw hrest
  rw [hcs]
  refine h.cons hcomment (isBlank_eq_false_of_isWordStart hc) fun t ht hrest => ?_
  have hnext := Cursor.next_of_read (hrest ▸ hread)
  obtain ⟨u, hu, hrun, hafter, htokens⟩ := ht.exists_run_of_clause hopens hclause hnext rfl hk
  exact ⟨u, _, hu, hrun, by rw [hafter]; rfl, htokens, rfl⟩

/-- The tokens of a source whose first word opens a statement and its first clause. -/
theorem exists_tokenize_of_lists {w source : String}
    (hsource : source.toList = w.toList ++ rest) (hw : IsWord w.toList)
    (hrest : ∀ c ∈ rest.head?, isWordChar c = false) (hk : d.keyword? w = some kind)
    (hstatement : d.statement? kind = some st) (hlisted : ∀ c ∈ st.clauses, c.strategy = .list)
    (hclause : st.clause? kind = some clause) (h : d.Lists st rest ls) :
    ∃ ts, d.tokenize source = .ok ts ∧
      ts.map Token.lexeme = ⟨kind, w⟩ :: ls ++ [⟨.endOfInput, ""⟩] := by
  obtain ⟨c, cs, hcs, hc, hread, -⟩ := exists_read_word hw hrest
  have hstart : (Cursor.start source).skipBlanks.rest = c :: cs := by
    simp only [Cursor.skipBlanks, Cursor.moveTo, Cursor.start, hsource, hcs]
    exact List.dropWhile_cons_of_neg (by simp [isBlank_eq_false_of_isWordStart hc])
  have hnext := Cursor.next_of_read (hstart ▸ hread)
  obtain ⟨u, hu, hrun, hafter, htokens⟩ :=
    Relay.exists_run_of_clause (t := .start (.start d source)) rfl rfl hstatement hlisted hclause
      hnext rfl hk
  obtain ⟨ts, hts, hlexemes⟩ := h.run u hu (by rw [hafter]; rfl)
  refine ⟨⟨kind, w, (Cursor.start source).skipBlanks.position⟩ :: ts, ?_,
    by simp [hlexemes, Token.lexeme]⟩
  rw [tokenize, Scan.run, hrun, hts, htokens]
  rfl

end Dialect

end RowSieve

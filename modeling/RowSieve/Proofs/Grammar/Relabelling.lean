import Mathlib.Data.List.Forall2
import RowSieve.Grammar.Scan
import RowSieve.Proofs.Grammar.Established
import RowSieve.Proofs.Token.Reading

/-!
# Tokens of a dialect

A dialect whose clauses are all split by `Strategy.list` does not read other tokens than the plain
scan does: it only gives kinds to words.  `Dialect.Classifies` says which kind a token may get, and
`Dialect.tokenize_relabels` that this is all that happens: the same errors, the same number of
tokens, the same texts and places.

The strategies take turns, so the proof goes along the places where a token is read.
`Relay.Ready` is what holds whenever one of the two strategies is about to take a step; from there
the next token of the source is read after one step or two (`Relay.exists_run_of_next_ok`), since the
strategy of a clause gives its turn back at most once in a row.
-/

namespace RowSieve

variable {σ : Type}

/-- The kinds that a dialect may give to a token of the plain scan.  A word that opens a clause has
no choice. -/
inductive Dialect.Classifies (d : Dialect σ) (token : Token) (meetsParen : Prop) : Kind → Prop where
  /-- Whatever is no word is left alone. -/
  | other : token.kind ≠ .word → Classifies d token meetsParen token.kind
  /-- A word is what it spells. -/
  | keyword {kind : Kind} : token.kind = .word → d.IsKeyword token.text kind →
    Classifies d token meetsParen kind
  /-- A word in front of a parenthesis may be a function, unless it opens a clause. -/
  | function : token.kind = .word →
    (∀ kind, d.IsKeyword token.text kind → d.opensClause kind = false) → meetsParen →
    Classifies d token meetsParen .function
  /-- A word that spells nothing stays one. -/
  | word : token.kind = .word → (∀ kind, ¬ d.IsKeyword token.text kind) →
    Classifies d token meetsParen .word

/-- The tokens of the plain scan from a place on, beside those that a dialect makes of them. -/
inductive Dialect.Relabelling (d : Dialect σ) : Cursor → List Token → List Token → Prop where
  /-- The end of the input is left alone. -/
  | finish {c after : Cursor} {token : Token} : c.next = (.ok token, after) →
    token.kind = .endOfInput → Relabelling d c [token] [token]
  /-- Any other token may get another kind. -/
  | token {c after : Cursor} {token : Token} {kind : Kind} {raw labelled : List Token} :
    c.next = (.ok token, after) → token.kind ≠ .endOfInput →
    d.Classifies token (after.current? = some '(') kind → Relabelling d after raw labelled →
    Relabelling d c (token :: raw) ({ token with kind := kind } :: labelled)

/-! ### One step -/

namespace Scan

variable {s : Scan σ} {token : Token} {after : Cursor}

/-- The clauses of the open statement are all split by the strategy for lists. -/
def Listed (s : Scan σ) : Prop := ∀ st ∈ s.statement, ∀ c ∈ st.clauses, c.strategy = .list

theorem listed_openClause (hd : ∀ st ∈ s.dialect.statements, ∀ c ∈ st.clauses, c.strategy = .list)
    (h : s.Listed) (kind : Kind) :
    (s.openClause kind).2.Listed ∧ ∀ c ∈ (s.openClause kind).1, c.strategy = .list := by
  have hlisted : (s.openClause kind).2.Listed := by
    intro st hst
    simp only [openClause, Option.mem_def, Option.or_eq_some_iff] at hst
    rcases hst with hst | ⟨-, hst⟩
    · exact h st hst
    · exact hd st (List.mem_of_find?_eq_some hst)
  refine ⟨hlisted, fun c hc => ?_⟩
  simp only [openClause, Option.mem_def, Option.bind_eq_some_iff] at hc
  obtain ⟨st, hst, hc⟩ := hc
  exact hlisted st hst c (List.mem_of_find?_eq_some hc)

/-- Between clauses, a keyword that opens a clause passes the turn on to it. -/
theorem statementStep_of_keyword {kind : Kind} (h : s.cursor.next = (.ok token, after))
    (hword : token.kind = .word) (hw : s.dialect.keyword? token.text = some kind) :
    ∃ clause? u,
      (emit { s with cursor := after } { token with kind := kind }).openClause kind = (clause?, u) ∧
        s.statementStep = (.ok (clause?.elim .again fun clause => .pass clause.strategy), u) := by
  cases hopen :
    (emit { s with cursor := after } { token with kind := kind }).openClause kind with
  | mk clause? u =>
    refine ⟨clause?, u, rfl, ?_⟩
    unfold statementStep
    rw [h]
    simp only [hword, hw, hopen]
    cases clause? <;> rfl

/-- Between clauses, the next token is emitted: a word as what it spells. -/
theorem statementStep_of_next_ok
    (hd : ∀ st ∈ s.dialect.statements, ∀ c ∈ st.clauses, c.strategy = .list) (hs : s.Listed)
    (h : s.cursor.next = (.ok token, after)) (hk : token.kind ≠ .endOfInput) :
    ∃ turn u kind, s.statementStep = (.ok turn, u) ∧ (turn = .again ∨ turn = .pass .list) ∧
      u.dialect = s.dialect ∧ u.Listed ∧ u.cursor = after ∧
      s.dialect.Classifies token (after.current? = some '(') kind ∧
      u.tokens = s.tokens.push { token with kind := kind } := by
  by_cases hspells : token.kind = .word ∧ ∃ kind, s.dialect.keyword? token.text = some kind
  · obtain ⟨hword, kind, hw⟩ := hspells
    obtain ⟨clause?, u, hopen, hstep⟩ := statementStep_of_keyword h hword hw
    have hlisted := listed_openClause
      (s := emit { s with cursor := after } { token with kind := kind }) hd hs kind
    rw [hopen] at hlisted
    have hu : u = { emit { s with cursor := after } { token with kind := kind } with
        statement := u.statement } := by
      simp only [openClause, Prod.mk.injEq] at hopen
      rw [← hopen.2]
    refine ⟨_, u, kind, hstep, ?_, by rw [hu]; rfl, hlisted.1, by rw [hu]; rfl,
      .keyword hword (Dialect.keyword?_eq_some_iff.1 hw), by rw [hu]; rfl⟩
    cases clause? with
    | none => exact .inl rfl
    | some clause => exact .inr (congrArg Turn.pass (hlisted.2 clause rfl))
  · unfold statementStep
    rw [h]
    dsimp only
    split
    next heq => exact absurd heq hk
    next heq =>
      refine ⟨_, _, token.kind, rfl, .inl rfl, rfl, ?_, rfl, .other (by simp [heq]), rfl⟩
      simp [Listed]
    next heq =>
      cases hw : s.dialect.keyword? token.text with
      | none =>
        exact ⟨_, _, .word, rfl, .inl rfl, rfl, hs, rfl,
          .word heq (Dialect.keyword?_eq_none_iff.1 hw), by simp [emit, ← heq]⟩
      | some kind => exact absurd ⟨heq, kind, hw⟩ hspells
    next hword =>
      exact ⟨_, _, token.kind, rfl, .inl rfl, rfl, hs, rfl, .other (fun heq => hword heq), rfl⟩

theorem clauseEnds_of_word {kind : Kind} (h : s.cursor.next = (.ok token, after))
    (hk : token.kind = .word) (hw : s.dialect.keyword? token.text = some kind)
    (hc : s.dialect.opensClause kind) : s.clauseEnds = true := by
  simp [clauseEnds, (Cursor.rest_of_word h hk).2, hw, hc]

/-- Inside a clause, the next token is emitted: a word as a function, or as what it spells. -/
theorem listStep_of_next_ok (hs : s.Listed) (hends : s.clauseEnds = false)
    (h : s.cursor.next = (.ok token, after)) :
    ∃ u kind, s.listStep = (.ok .again, u) ∧ token.kind ≠ .endOfInput ∧
      u.dialect = s.dialect ∧ u.Listed ∧ u.cursor = after ∧
      s.dialect.Classifies token (after.current? = some '(') kind ∧
      u.tokens = s.tokens.push { token with kind := kind } := by
  have hk : token.kind ≠ .endOfInput := fun hk => by
    simp [clauseEnds, Cursor.atEnd, (Cursor.kind_eq_endOfInput_iff h).1 hk] at hends
  unfold listStep
  rw [hends, h]
  dsimp only
  refine ⟨_, _, rfl, hk, rfl, hs, rfl, ?_, rfl⟩
  by_cases hword : token.kind = .word
  · rw [if_pos hword, wordKind]
    dsimp only
    split
    next hparen =>
      refine .function hword (fun kind hw => ?_) hparen
      rw [Bool.eq_false_iff]
      intro hc
      rw [clauseEnds_of_word h hword (Dialect.keyword?_eq_some_iff.2 hw) hc] at hends
      cases hends
    next hparen =>
      cases hw : s.dialect.keyword? token.text with
      | none => exact .word hword (Dialect.keyword?_eq_none_iff.1 hw)
      | some kind => exact .keyword hword (Dialect.keyword?_eq_some_iff.1 hw)
  · rw [if_neg hword]
    exact .other hword

end Scan

/-! ### Taking turns -/

namespace Relay

variable [Strategies σ] {d : Dialect σ} {t : Relay σ} {token : Token} {after : Cursor}

theorem run_of_step_inl {result : Except SourceError (List Token)} (h : t.step = .inl result) :
    t.run = result := by
  rw [run]
  split <;> simp_all

theorem run_of_step_inr {u : Relay σ} (h : t.step = .inr u) : t.run = u.run := by
  rw [run]
  split <;> simp_all

/-- What so many steps make of a relay. -/
def afterSteps : Nat → Relay σ → Except SourceError (List Token) ⊕ Relay σ
  | 0, t => .inr t
  | n + 1, t => match t.step with
    | .inl result => .inl result
    | .inr u => afterSteps n u

/-- A run that ends after some steps can be followed step by step. -/
theorem run_of_afterSteps {n : Nat} {result : Except SourceError (List Token)}
    (h : t.afterSteps n = .inl result) : t.run = result := by
  induction n generalizing t with
  | zero => cases h
  | succ n ih =>
    rw [afterSteps] at h
    split at h
    next hstep =>
      cases h
      exact run_of_step_inl hstep
    next hstep =>
      rw [run_of_step_inr hstep]
      exact ih h

/-- One of the two strategies is about to take a step, and the other has not just given up its turn
more than once. -/
structure Ready (d : Dialect σ) (t : Relay σ) : Prop where
  /-- The dialect whose keywords count. -/
  dialect : t.scan.dialect = d
  /-- All clauses are split by the strategy for lists. -/
  listed : t.scan.Listed
  /-- Whose turn it is. -/
  turn : t.current = .statement ∧ t.idle ≤ 1 ∨ t.current = .list ∧ t.idle = 0

/-- At the end of its clause, the strategy for lists gives the turn back, once. -/
theorem run_of_clauseEnds (ht : t.current = .list ∧ t.idle = 0) (h : t.scan.clauseEnds = true) :
    t.run = (⟨t.scan, .statement, 1⟩ : Relay σ).run := by
  apply run_of_step_inr
  simp [step, Scan.advance, Scan.listStep, handOver, patience, ht.1, ht.2, h]

/-- It can be taken for granted that the strategy for lists is not at the end of its clause. -/
theorem Ready.exists_inside (h : t.Ready d) :
    ∃ u : Relay σ, u.Ready d ∧ t.run = u.run ∧ u.scan = t.scan ∧
      (u.current = .statement ∨ u.current = .list ∧ u.scan.clauseEnds = false) := by
  rcases h.turn with ht | ht
  · exact ⟨t, h, rfl, rfl, .inl ht.1⟩
  · cases hends : t.scan.clauseEnds with
    | false => exact ⟨t, h, rfl, rfl, .inr ⟨ht.1, hends⟩⟩
    | true =>
      exact ⟨⟨t.scan, .statement, 1⟩, ⟨h.dialect, h.listed, .inl ⟨rfl, Nat.le_refl 1⟩⟩,
        run_of_clauseEnds ht hends, rfl, .inl rfl⟩

theorem run_of_next_error {e : SourceError} (h : t.Ready d)
    (hnext : t.scan.cursor.next = (.error e, after)) : t.run = .error e := by
  obtain ⟨u, hu, hrun, hscan, hturn⟩ := h.exists_inside
  rw [hrun]
  apply run_of_step_inl
  rw [← hscan] at hnext
  rcases hturn with hturn | ⟨hturn, hends⟩
  · simp [step, Scan.advance, Scan.statementStep, hturn, hnext]
  · simp [step, Scan.advance, Scan.listStep, hturn, hends, hnext]

theorem run_of_next_finish (h : t.Ready d) (hnext : t.scan.cursor.next = (.ok token, after))
    (hk : token.kind = .endOfInput) : t.run = .ok (t.scan.tokens.toList ++ [token]) := by
  obtain ⟨u, hu, hrun, hscan, hturn⟩ := h.exists_inside
  rw [hrun, ← hscan]
  apply run_of_step_inl
  rw [← hscan] at hnext
  rcases hturn with hturn | ⟨hturn, hends⟩
  · simp [step, Scan.advance, Scan.statementStep, Scan.finish, Scan.emit, hturn, hnext, hk]
  · obtain ⟨-, -, -, hne, -⟩ := Scan.listStep_of_next_ok hu.listed hends hnext
    exact absurd hk hne

/-- A step that takes a token leaves the relay ready. -/
theorem ready_of_advance {turn : Turn σ} {scan : Scan σ} (hdialect : scan.dialect = d)
    (hlisted : scan.Listed) (hcurrent : t.current = .statement ∨ t.current = .list)
    (hadv : t.scan.advance t.current = (.ok turn, scan))
    (hturn : turn = .again ∨ turn = .pass .list)
    (hp : scan.cursor.position ≠ t.scan.cursor.position) :
    ∃ strategy, t.step = .inr ⟨scan, strategy, 0⟩ ∧ (⟨scan, strategy, 0⟩ : Relay σ).Ready d := by
  rcases hturn with rfl | rfl
  · refine ⟨t.current, by simp [step, hadv, hp, handOver], hdialect, hlisted, ?_⟩
    exact hcurrent.imp (fun h => ⟨h, Nat.zero_le 1⟩) fun h => ⟨h, rfl⟩
  · exact ⟨.list, by simp [step, hadv, hp, handOver], hdialect, hlisted, .inr ⟨rfl, rfl⟩⟩

theorem exists_run_of_next_ok
    (hd : ∀ st ∈ d.statements, ∀ c ∈ st.clauses, c.strategy = .list) (h : t.Ready d)
    (hnext : t.scan.cursor.next = (.ok token, after)) (hk : token.kind ≠ .endOfInput) :
    ∃ (u : Relay σ) (kind : Kind), u.Ready d ∧ t.run = u.run ∧ u.scan.cursor = after ∧
      d.Classifies token (after.current? = some '(') kind ∧
      u.scan.tokens.toList = t.scan.tokens.toList ++ [{ token with kind := kind }] := by
  obtain ⟨u, hu, hrun, hscan, hturn⟩ := h.exists_inside
  rw [hrun, ← hscan]
  rw [← hscan] at hnext
  -- The cursor moves, so that the turn does not count as an idle one.
  have hp : after.position ≠ u.scan.cursor.position :=
    Nat.ne_of_gt (Cursor.position_lt_of_next hnext hk)
  rcases hturn with hturn | ⟨hturn, hends⟩
  · obtain ⟨turn, v, kind, hstep, hnextTurn, hdialect, hlisted, hcursor, hclass, htokens⟩ :=
      Scan.statementStep_of_next_ok (hu.dialect ▸ hd) hu.listed hnext hk
    obtain ⟨strategy, hs, hready⟩ := ready_of_advance (hdialect.trans hu.dialect) hlisted
      (.inl hturn) (by rw [hturn]; exact hstep) hnextTurn (by rw [hcursor]; exact hp)
    exact ⟨_, kind, hready, run_of_step_inr hs, hcursor, hu.dialect ▸ hclass, by simp [htokens]⟩
  · obtain ⟨v, kind, hstep, -, hdialect, hlisted, hcursor, hclass, htokens⟩ :=
      Scan.listStep_of_next_ok hu.listed hends hnext
    obtain ⟨strategy, hs, hready⟩ := ready_of_advance (hdialect.trans hu.dialect) hlisted
      (.inr hturn) (by rw [hturn]; exact hstep) (.inl rfl) (by rw [hcursor]; exact hp)
    exact ⟨_, kind, hready, run_of_step_inr hs, hcursor, hu.dialect ▸ hclass, by simp [htokens]⟩

/-- From any place where a strategy takes a step, the run ends as the plain scan does. -/
theorem run_of_ready (hd : ∀ st ∈ d.statements, ∀ c ∈ st.clauses, c.strategy = .list)
    (h : t.Ready d) :
    (∀ e, t.scan.cursor.tokens = .error e → t.run = .error e) ∧
      ∀ raw, t.scan.cursor.tokens = .ok raw →
        ∃ labelled, t.run = .ok (t.scan.tokens.toList ++ labelled) ∧
          d.Relabelling t.scan.cursor raw labelled := by
  induction hn : t.scan.cursor.rest.length using Nat.strongRecOn generalizing t with
  | ind n ih =>
    cases hnext : t.scan.cursor.next with
    | mk result after =>
      cases result with
      | error e =>
        rw [Cursor.tokens_of_next_error hnext]
        exact ⟨fun e' he => by cases he; exact run_of_next_error h hnext, nofun⟩
      | ok token =>
        rw [Cursor.tokens_of_next_ok hnext]
        by_cases hk : token.kind = .endOfInput
        · rw [if_pos hk]
          refine ⟨nofun, fun raw hraw => ?_⟩
          cases hraw
          exact ⟨[token], run_of_next_finish h hnext hk, .finish hnext hk⟩
        · rw [if_neg hk]
          obtain ⟨u, kind, hu, hrun, rfl, hclass, htokens⟩ := exists_run_of_next_ok hd h hnext hk
          have hlt := Cursor.length_lt_of_next hnext hk
          obtain ⟨herror, hok⟩ := ih _ (hn ▸ hlt) hu rfl
          rw [hrun]
          constructor
          · intro e he
            cases hrest : u.scan.cursor.tokens with
            | error e' =>
              rw [hrest] at he
              cases he
              exact herror e hrest
            | ok raw => simp [hrest, Except.map] at he
          · intro raw hraw
            cases hrest : u.scan.cursor.tokens with
            | error e' => simp [hrest, Except.map] at hraw
            | ok raw' =>
              rw [hrest] at hraw
              cases hraw
              obtain ⟨labelled, hlabelled, hrel⟩ := hok raw' hrest
              refine ⟨{ token with kind := kind } :: labelled, ?_, .token hnext hk hclass hrel⟩
              rw [hlabelled, htokens, List.append_assoc]
              rfl

end Relay

/-! ### The tokens of a source -/

/-- A parenthesis comes right behind the token in the source. -/
def Token.MeetsParen (source : String) (token : Token) : Prop :=
  ∃ before after, source.toList = before ++ token.text.toList ++ '(' :: after ∧
    byteLength before = token.position

namespace Dialect

variable {d : Dialect σ}

/-- What a dialect may make of a token of the plain scan. -/
structure Relabels (d : Dialect σ) (source : String) (raw labelled : Token) : Prop where
  /-- The text stays. -/
  text : labelled.text = raw.text
  /-- The place stays. -/
  position : labelled.position = raw.position
  /-- Words get kinds. -/
  kind : d.Classifies raw (raw.MeetsParen source) labelled.kind

theorem Classifies.mono {token : Token} {p q : Prop} {kind : Kind}
    (h : d.Classifies token p kind) (hpq : token.kind = .word → p → q) :
    d.Classifies token q kind := by
  cases h with
  | other hk => exact .other hk
  | keyword hk hw => exact .keyword hk hw
  | function hk hw hp => exact .function hk hw (hpq hk hp)
  | word hk hw => exact .word hk hw

theorem meetsParen_of_next {source : String} {c after : Cursor} {token : Token}
    (hc : (Cursor.start source).Reaches c) (h : c.next = (.ok token, after))
    (hk : token.kind = .word) (hp : after.current? = some '(') : token.MeetsParen source := by
  obtain ⟨before, hbefore, hposition⟩ := hc.trans c.reaches_skipBlanks
  obtain ⟨rest, hrest⟩ := List.head?_eq_some_iff.1 hp
  refine ⟨before, rest, ?_, ?_⟩
  · rw [List.append_assoc, ← hrest, ← (Cursor.rest_of_word h hk).1, hbefore]
    rfl
  · rw [Cursor.position_of_next h, hposition]
    simp [Cursor.start]

theorem Relabelling.forall₂ {source : String} {c : Cursor} {raw labelled : List Token}
    (h : d.Relabelling c raw labelled) (hc : (Cursor.start source).Reaches c) :
    List.Forall₂ (d.Relabels source) raw labelled := by
  induction h with
  | finish hnext hk =>
    refine .cons ⟨rfl, rfl, .other ?_⟩ .nil
    rw [hk]
    decide
  | @token c after token kind raw labelled hnext hk hclass _ ih =>
    refine .cons ⟨rfl, rfl, hclass.mono (meetsParen_of_next hc hnext)⟩ (ih (hc.trans ?_))
    simpa [hnext] using c.reaches_next

/-- The relay at the beginning of a source ends as the plain scan does. -/
theorem tokenize_spec [Strategies σ]
    (hd : ∀ st ∈ d.statements, ∀ c ∈ st.clauses, c.strategy = .list) (source : String) :
    (∀ e, scan source = .error e → d.tokenize source = .error e) ∧
      ∀ raw, scan source = .ok raw → ∃ labelled, d.tokenize source = .ok labelled ∧
        d.Relabelling (.start source) raw labelled := by
  have hready : (Relay.start (Scan.start d source)).Ready d :=
    ⟨rfl, by simp [Relay.start, Scan.start, Scan.Listed], .inl ⟨rfl, Nat.zero_le 1⟩⟩
  exact Relay.run_of_ready hd hready

theorem exists_relabelling [Strategies σ]
    (hd : ∀ st ∈ d.statements, ∀ c ∈ st.clauses, c.strategy = .list) {source : String}
    {tokens : List Token} (h : d.tokenize source = .ok tokens) :
    ∃ raw, d.Relabelling (.start source) raw tokens := by
  obtain ⟨herror, hok⟩ := tokenize_spec hd source
  cases hscan : scan source with
  | error e => simp [herror e hscan] at h
  | ok raw =>
    obtain ⟨labelled, hl, hrel⟩ := hok raw hscan
    rw [h] at hl
    cases hl
    exact ⟨raw, hrel⟩

/-- **A dialect that splits all its clauses by the strategy for lists relabels the plain scan**: it
fails exactly when the plain scan does, with the same error, so it never stalls; and otherwise it
keeps every token with its text and its place, and gives kinds to words only. -/
theorem tokenize_relabels [Strategies σ] (d : Dialect σ)
    (hd : ∀ st ∈ d.statements, ∀ c ∈ st.clauses, c.strategy = .list) (source : String) :
    (∀ e, d.tokenize source = .error e ↔ scan source = .error e) ∧
      (∀ strategy position, d.tokenize source ≠ .error (.stalled strategy position)) ∧
      ∀ raw labelled, scan source = .ok raw → d.tokenize source = .ok labelled →
        List.Forall₂ (d.Relabels source) raw labelled := by
  obtain ⟨herror, hok⟩ := tokenize_spec hd source
  have hfails : ∀ e, d.tokenize source = .error e ↔ scan source = .error e := by
    intro e
    refine ⟨fun he => ?_, herror e⟩
    cases hscan : scan source with
    | error e' => rw [← he, herror e' hscan]
    | ok raw =>
      obtain ⟨labelled, hl, -⟩ := hok raw hscan
      rw [hl] at he
      cases he
  refine ⟨hfails, fun strategy position h => ?_, fun raw labelled hraw hlabelled => ?_⟩
  · exact Cursor.tokens_ne_stalled _ strategy position ((hfails _).1 h)
  · obtain ⟨labelled', hl, hrel⟩ := hok raw hraw
    rw [hlabelled] at hl
    cases hl
    exact hrel.forall₂ (.refl _)

/-- In the stock dialect, a keyword and a function get kinds of their own. -/
theorem tokenize_relabels_select :
    ∃ raw labelled,
      raw = [⟨.word, "select", 0⟩, ⟨.word, "f", 7⟩, ⟨.leftParen, "(", 8⟩, ⟨.word, "a", 9⟩,
        ⟨.rightParen, ")", 10⟩, ⟨.endOfInput, "", 11⟩] ∧
      labelled = [⟨.selectWord, "select", 0⟩, ⟨.function, "f", 7⟩, ⟨.leftParen, "(", 8⟩,
        ⟨.word, "a", 9⟩, ⟨.rightParen, ")", 10⟩, ⟨.endOfInput, "", 11⟩] ∧
      scan "select f(a)" = .ok raw ∧
      (sql : Declarations Empty).dialect.tokenize "select f(a)" = .ok labelled ∧
      List.Forall₂ ((sql : Declarations Empty).dialect.Relabels "select f(a)") raw labelled := by
  obtain ⟨-, -, hrelabels⟩ :=
    tokenize_relabels (sql : Declarations Empty).dialect (by decide) "select f(a)"
  have hscan : scan "select f(a)" = .ok _ := rfl
  have htokens : (sql : Declarations Empty).dialect.tokenize "select f(a)" = .ok _ :=
    Relay.run_of_afterSteps (n := 10) (by rfl)
  exact ⟨_, _, rfl, rfl, hscan, htokens, hrelabels _ _ hscan htokens⟩

end Dialect

end RowSieve

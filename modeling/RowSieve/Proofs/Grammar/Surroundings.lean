import RowSieve.Proofs.Grammar.Listing
import RowSieve.Proofs.Token.Surroundings

/-!
# Scans in longer sources

If a source stands in a longer one, with nothing or a new line and a semicolon behind it, then the
strategies of a dialect take the same steps there as they take in the source alone
(`Relay.step_within`), up to the place where the source ends: there the semicolon closes the
statement, and everything is as it was at the beginning.  So the tokens of two sources that are
joined by a new line and a semicolon are the tokens of the first, a semicolon, and the tokens of the
second, moved to where they stand (`Dialect.tokenize_join`).
-/

namespace RowSieve

variable {σ : Type}

/-- The scan in the longer source. -/
def Scan.within (w : Surroundings) (s : Scan σ) : Scan σ :=
  { s with
    cursor := s.cursor.within w
    tokens := w.tokens.toArray ++ s.tokens.map (.moved w.bytes) }

/-- The relay in the longer source. -/
def Relay.within (w : Surroundings) (t : Relay σ) : Relay σ := { t with scan := t.scan.within w }

variable {w : Surroundings}

namespace Scan

variable {s u : Scan σ} {token : Token} {after : Cursor}

theorem emit_within (s : Scan σ) (after : Cursor) (t : Token) :
    emit { s.within w with cursor := after.within w } (t.moved w.bytes) =
      (emit { s with cursor := after } t).within w := by
  simp only [emit, within, Array.map_push, Array.push_append]

/-- A clause ends in the longer source where it ends in the source. -/
theorem clauseEnds_within (hw : w.Closed) : (s.within w).clauseEnds = s.clauseEnds := by
  by_cases h : s.cursor.skipBlanks.rest = []
  · have hends : s.clauseEnds = true := by simp [clauseEnds, Cursor.atEnd, h]
    rw [hends]
    rcases hw with hw | ⟨more, hw⟩
    · have hnil : (s.cursor.within w).skipBlanks.rest = [] := by
        change (s.cursor.rest ++ w.rest).dropWhile Text.isBlank = []
        rw [hw, List.append_nil]
        exact h
      simp [clauseEnds, Cursor.atEnd, within, hnil]
    · obtain ⟨-, -, -, -, hcurrent⟩ := Cursor.next_within_of_rest_eq_nil hw h
      simp only [clauseEnds, within, hcurrent]
      simp
  · have hblanks := Cursor.skipBlanks_within (w := w) h
    have hword := Cursor.peekWord?_within (c := s.cursor.skipBlanks) hw.beginsLine h
    simp only [clauseEnds, within, hblanks, hword]
    obtain ⟨d, ds, hd⟩ := List.exists_cons_of_ne_nil h
    simp [Cursor.atEnd, Cursor.current?, Cursor.within, hd]

theorem openClause_within (kind : Kind) :
    (s.within w).openClause kind = ((s.openClause kind).1, (s.openClause kind).2.within w) := rfl

/-- A step between clauses that reads a token. -/
theorem statementStep_within (hw : w.Closed) (h : s.cursor.next = (.ok token, after))
    (hk : token.kind ≠ .endOfInput) :
    (s.within w).statementStep = (s.statementStep.1, s.statementStep.2.within w) := by
  have hnext : (s.within w).cursor.next = (.ok (token.moved w.bytes), after.within w) :=
    Cursor.next_within hw.beginsLine h hk
  have hemit := emit_within (w := w) s after
  unfold statementStep
  rw [hnext, h]
  dsimp only [Token.moved]
  split
  next => exact congrArg (Prod.mk _) (hemit token)
  next =>
    exact congrArg (fun u => (Except.ok Turn.again, { u with statement := none })) (hemit token)
  next =>
    have hkeyword : (s.within w).dialect.keyword? token.text = s.dialect.keyword? token.text := rfl
    rw [hkeyword]
    cases s.dialect.keyword? token.text with
    | none => exact congrArg (Prod.mk _) (hemit token)
    | some kind =>
      have hopen := congrArg (·.openClause kind) (hemit { token with kind := kind })
      dsimp only [Token.moved] at hopen ⊢
      rw [hopen, openClause_within]
      rcases (emit { s with cursor := after } { token with kind := kind }).openClause kind with
        ⟨_ | clause, u⟩
      · rfl
      · rfl
  next => exact congrArg (Prod.mk _) (hemit token)

/-- A step inside a clause that ends the clause or reads a token. -/
theorem listStep_within (hw : w.Closed)
    (h : s.clauseEnds = true ∨ s.cursor.next = (.ok token, after) ∧ token.kind ≠ .endOfInput) :
    (s.within w).listStep = (s.listStep.1, s.listStep.2.within w) := by
  unfold listStep
  rw [clauseEnds_within hw]
  cases hends : s.clauseEnds with
  | true => rfl
  | false =>
    rw [hends] at h
    obtain ⟨h, hk⟩ := h.resolve_left (by decide)
    have hnext : (s.within w).cursor.next = (.ok (token.moved w.bytes), after.within w) :=
      Cursor.next_within hw.beginsLine h hk
    have hkind : wordKind { s.within w with cursor := after.within w } token.text =
        wordKind { s with cursor := after } token.text := by
      simp only [wordKind, Cursor.current?_within hw.beginsLine]
      rfl
    rw [hnext, h]
    simp only [Token.moved, Bool.false_eq_true, if_false]
    dsimp only at hkind
    rw [hkind]
    exact congrArg (Prod.mk _) (emit_within s after { token with kind := _ })

end Scan

/-! ### Taking turns -/

namespace Relay

theorem Ready.within {d : Dialect σ} {t : Relay σ} (h : t.Ready d) (w : Surroundings) :
    (t.within w).Ready d := ⟨h.dialect, h.listed, h.turn⟩

variable [Strategies σ] {d : Dialect σ} {t u : Relay σ}

theorem handOver_within {scan : Scan σ} {idle : Nat} {strategy : Strategy σ}
    (h : handOver scan idle strategy = .inr u) :
    handOver (scan.within w) idle strategy = .inr (u.within w) := by
  unfold handOver at h ⊢
  split at h
  · cases h
  next hidle =>
    cases h
    rw [if_neg hidle]
    rfl

/-- If the strategy does the same in the longer source, then the turn goes to the same one. -/
theorem step_within_of_advance {turn : Except SourceError (Turn σ)} {scan : Scan σ}
    (hadv : t.scan.advance t.current = (turn, scan))
    (hwithin : (t.scan.within w).advance t.current = (turn, scan.within w))
    (h : t.step = .inr u) : (t.within w).step = .inr (u.within w) := by
  have hadvance : (t.within w).scan.advance (t.within w).current = (turn, scan.within w) := hwithin
  have hposition : (scan.within w).cursor.position ≠ (t.within w).scan.cursor.position ↔
      scan.cursor.position ≠ t.scan.cursor.position :=
    not_congr Nat.add_left_cancel_iff
  unfold step at h ⊢
  rw [hadv] at h
  rw [hadvance]
  simp only [hposition]
  dsimp only at h
  split at h
  · cases h
  · cases h
  · split at h
    next hp =>
      simp only [if_pos hp] at h ⊢
      exact handOver_within h
    next => cases h
  · exact handOver_within h
  · exact handOver_within h

/-- A step that takes a token is taken in the longer source as well. -/
theorem exists_step_within {turn : Turn σ} {scan : Scan σ} (hdialect : scan.dialect = d)
    (hlisted : scan.Listed) (hcurrent : t.current = .statement ∨ t.current = .list)
    (hadv : t.scan.advance t.current = (.ok turn, scan)) (hturn : turn = .again ∨ turn = .pass .list)
    (hp : t.scan.cursor.position < scan.cursor.position)
    (hwithin : (t.scan.within w).advance t.current = (.ok turn, scan.within w)) :
    ∃ u, t.step = .inr u ∧ u.Ready d ∧ (t.within w).step = .inr (u.within w) := by
  obtain ⟨strategy, hs, hready⟩ :=
    ready_of_advance hdialect hlisted hcurrent hadv hturn (Nat.ne_of_gt hp)
  exact ⟨_, hs, hready, step_within_of_advance hadv hwithin hs⟩

theorem Ready.step_within_of_statement
    (hd : ∀ st ∈ d.statements, ∀ c ∈ st.clauses, c.strategy = .list) (h : t.Ready d)
    (hw : w.Closed) (hcurrent : t.current = .statement) :
    (∃ e, t.step = .inl (.error e)) ∨ t.scan.cursor.skipBlanks.rest = [] ∨
      ∃ u, t.step = .inr u ∧ u.Ready d ∧ (t.within w).step = .inr (u.within w) := by
  cases hnext : t.scan.cursor.next with
  | mk result after =>
    cases result with
    | error e =>
      exact .inl ⟨e, by simp [step, Scan.advance, Scan.statementStep, hcurrent, hnext]⟩
    | ok token =>
      by_cases hk : token.kind = .endOfInput
      · exact .inr (.inl ((Cursor.kind_eq_endOfInput_iff hnext).1 hk))
      · obtain ⟨turn, v, kind, hstep, hturn, hdialect, hlisted, hcursor, -, -⟩ :=
          Scan.statementStep_of_next_ok (h.dialect ▸ hd) h.listed hnext hk
        have hwithin := Scan.statementStep_within hw hnext hk
        rw [hstep] at hwithin
        exact .inr (.inr (exists_step_within (hdialect.trans h.dialect) hlisted (.inl hcurrent)
          (by rw [hcurrent]; exact hstep) hturn
          (by rw [hcursor]; exact Cursor.position_lt_of_next hnext hk)
          (by rw [hcurrent]; exact hwithin)))

theorem Ready.step_within_of_list (h : t.Ready d) (hw : w.Closed)
    (hcurrent : t.current = .list) (hidle : t.idle = 0) :
    (∃ e, t.step = .inl (.error e)) ∨
      ∃ u, t.step = .inr u ∧ u.Ready d ∧ (t.within w).step = .inr (u.within w) := by
  by_cases hends : t.scan.clauseEnds = true
  · -- The turn goes back, with nothing read.
    have hadv : t.scan.advance t.current = (.ok .back, t.scan) := by
      rw [hcurrent, Scan.advance, Scan.listStep, if_pos hends]
    have hwithin : (t.scan.within w).advance t.current = (.ok .back, t.scan.within w) := by
      rw [hcurrent, Scan.advance, Scan.listStep, Scan.clauseEnds_within hw, if_pos hends]
    have hs : t.step = .inr ⟨t.scan, .statement, 1⟩ := by
      simp [step, hadv, hidle, handOver, patience]
    exact .inr ⟨_, hs, ⟨h.dialect, h.listed, .inl ⟨rfl, Nat.le_refl 1⟩⟩,
      step_within_of_advance hadv hwithin hs⟩
  · rw [Bool.not_eq_true] at hends
    cases hnext : t.scan.cursor.next with
    | mk result after =>
      cases result with
      | error e =>
        exact .inl ⟨e, by simp [step, Scan.advance, Scan.listStep, hcurrent, hends, hnext]⟩
      | ok token =>
        obtain ⟨v, kind, hstep, hk, hdialect, hlisted, hcursor, -, -⟩ :=
          Scan.listStep_of_next_ok h.listed hends hnext
        have hwithin := Scan.listStep_within hw (.inr ⟨hnext, hk⟩)
        rw [hstep] at hwithin
        exact .inr (exists_step_within (hdialect.trans h.dialect) hlisted (.inr hcurrent)
          (by rw [hcurrent]; exact hstep) (.inl rfl)
          (by rw [hcursor]; exact Cursor.position_lt_of_next hnext hk)
          (by rw [hcurrent]; exact hwithin))

/-- A step in the source fails, or it comes to the end between clauses, or it is taken in the longer
source as well. -/
theorem Ready.step_within (hd : ∀ st ∈ d.statements, ∀ c ∈ st.clauses, c.strategy = .list)
    (h : t.Ready d) (hw : w.Closed) :
    (∃ e, t.step = .inl (.error e)) ∨
      (t.current = .statement ∧ t.scan.cursor.skipBlanks.rest = []) ∨
      ∃ u, t.step = .inr u ∧ u.Ready d ∧ (t.within w).step = .inr (u.within w) := by
  rcases h.turn with ⟨hcurrent, -⟩ | ⟨hcurrent, hidle⟩
  · exact (h.step_within_of_statement hd hw hcurrent).imp_right (.imp_left fun h => ⟨hcurrent, h⟩)
  · exact (h.step_within_of_list hw hcurrent hidle).imp_right .inr

/-- A run in the source goes along in the longer source until the source is at its end. -/
theorem exists_run_within (hd : ∀ st ∈ d.statements, ∀ c ∈ st.clauses, c.strategy = .list)
    (h : t.Ready d) (hw : w.Closed) {tokens : List Token} (hrun : t.run = .ok tokens) :
    ∃ u : Relay σ, u.Ready d ∧ u.current = .statement ∧ u.scan.cursor.skipBlanks.rest = [] ∧
      u.run = .ok tokens ∧ (t.within w).run = (u.within w).run := by
  fun_induction run t with
  | case1 t result hstep =>
    cases hrun
    rcases h.step_within hd hw with ⟨e, he⟩ | ⟨hcurrent, hrest⟩ | ⟨u, hu, -⟩
    · rw [hstep] at he
      cases he
    · exact ⟨t, h, hcurrent, hrest, run_of_step_inl hstep, rfl⟩
    · rw [hstep] at hu
      cases hu
  | case2 t u hstep ih =>
    rcases h.step_within hd hw with ⟨e, he⟩ | ⟨hcurrent, hrest⟩ | ⟨u', hu, hready, hwithin⟩
    · rw [hstep] at he
      cases he
    · exact ⟨t, h, hcurrent, hrest, (run_of_step_inr hstep).trans hrun, rfl⟩
    · rw [hstep] at hu
      cases hu
      rw [run_of_step_inr hwithin]
      exact ih hready hrun

/-- At the end of a source with nothing behind it, the scan ends. -/
theorem run_within_of_rest_eq_nil (h : t.Ready d) (hw : w.rest = [])
    (hrest : t.scan.cursor.skipBlanks.rest = []) {tokens : List Token} (hrun : t.run = .ok tokens) :
    (t.within w).run = .ok (w.tokens ++ tokens.map (.moved w.bytes)) := by
  have hblanks : (t.within w).scan.cursor.skipBlanks = t.scan.cursor.skipBlanks.within w := by
    simp only [within, Scan.within, Cursor.skipBlanks, Cursor.within, Cursor.moveTo, hw,
      List.append_nil, Nat.add_assoc]
  have hread : Span.read t.scan.cursor.skipBlanks.rest = ⟨.ok ⟨.endOfInput, ""⟩, [], []⟩ := by
    rw [hrest]
    rfl
  have hread' : Span.read (t.within w).scan.cursor.skipBlanks.rest =
      ⟨.ok ⟨.endOfInput, ""⟩, [], []⟩ := by
    rw [hblanks, Cursor.within, hw, List.append_nil, hread]
  have hfinish := run_of_next_finish h (Cursor.next_of_read hread) rfl
  have hfinish' := run_of_next_finish (h.within w) (Cursor.next_of_read hread') rfl
  rw [hrun, Except.ok.injEq] at hfinish
  rw [hfinish', hfinish, hblanks]
  simp [within, Scan.within, Cursor.within, Token.moved]

/-- At the end of a source with a semicolon behind it, the scan begins anew. -/
theorem exists_run_within_of_semicolon (h : t.Ready d) {more : List Char}
    (hw : w.rest = '\n' :: ';' :: more) (hcurrent : t.current = .statement)
    (hrest : t.scan.cursor.skipBlanks.rest = []) :
    ∃ semicolon bytes, semicolon.kind = .endOfStatement ∧ (t.within w).run =
      (start ⟨d, ⟨bytes, more⟩, (t.within w).scan.tokens.push semicolon, none⟩ : Relay σ).run := by
  obtain ⟨position, bytes, hnext, hlt, -⟩ := Cursor.next_within_of_rest_eq_nil hw hrest
  refine ⟨⟨.endOfStatement, ";", position⟩, bytes, rfl, run_of_step_inr ?_⟩
  have hturn : (t.within w).current = .statement := hcurrent
  have hadv : (t.within w).scan.advance .statement =
      (.ok .again, ⟨d, ⟨bytes, more⟩,
        (t.within w).scan.tokens.push ⟨.endOfStatement, ";", position⟩, none⟩) := by
    have hcursor : (t.within w).scan.cursor.next =
        (.ok ⟨.endOfStatement, ";", position⟩, ⟨bytes, more⟩) := hnext
    rw [Scan.advance, Scan.statementStep, hcursor, ← h.dialect]
    rfl
  have hp : bytes ≠ (t.within w).scan.cursor.position := Nat.ne_of_gt hlt
  simp [step, hturn, hadv, hp, handOver, start]

end Relay

/-! ### Two sources -/

/-- The tokens of two sources that are joined by a new line and a semicolon. -/
theorem Dialect.tokenize_join [Strategies σ] {d : Dialect σ}
    (hd : ∀ st ∈ d.statements, ∀ c ∈ st.clauses, c.strategy = .list) {a b : String}
    {ta tb : List Token} (ha : d.tokenize a = .ok ta) (hb : d.tokenize b = .ok tb) :
    ∃ ts finish semicolon bytes, ta = ts ++ [finish] ∧ finish.kind = .endOfInput ∧
      semicolon.kind = .endOfStatement ∧
      d.tokenize (a ++ "\n;" ++ b) = .ok (ts ++ semicolon :: tb.map (.moved bytes)) := by
  have hready (source : String) : (Relay.start (Scan.start d source)).Ready d :=
    ⟨rfl, by simp [Scan.Listed, Relay.start, Scan.start], .inl ⟨rfl, Nat.zero_le 1⟩⟩
  -- The first source, with the second one behind it.
  let first : Surroundings := ⟨[], 0, '\n' :: ';' :: b.toList⟩
  obtain ⟨u, hu, hcurrent, hrest, hrun, hwithin⟩ :=
    Relay.exists_run_within hd (hready a) (w := first) (.inr ⟨_, rfl⟩) ha
  obtain ⟨semicolon, bytes, hsemicolon, hagain⟩ :=
    Relay.exists_run_within_of_semicolon (w := first) hu rfl hcurrent hrest
  have hfirst : (Relay.start (Scan.start d a)).within first =
      Relay.start (Scan.start d (a ++ "\n;" ++ b)) := by
    simp [Relay.within, Relay.start, Scan.within, Scan.start, Cursor.within, Cursor.start, first]
  have htokens : (u.within first).scan.tokens = u.scan.tokens := by
    have hmoved : Token.moved 0 = id := funext Token.moved_zero
    simp [Relay.within, Scan.within, first, hmoved]
  -- The second source, with everything else in front of it.
  let second : Surroundings := ⟨u.scan.tokens.toList ++ [semicolon], bytes, []⟩
  have hsecond : (Relay.start (Scan.start d b)).within second = Relay.start
      ⟨d, ⟨bytes, b.toList⟩, u.scan.tokens.push semicolon, none⟩ := by
    have hpush : (u.scan.tokens.toList ++ [semicolon]).toArray = u.scan.tokens.push semicolon := by
      rw [← Array.toList_push]
    simp [hpush, Relay.within, Relay.start, Scan.within, Scan.start, Cursor.within, Cursor.start, second]
  obtain ⟨v, hv, -, hvrest, hvrun, hvwithin⟩ :=
    Relay.exists_run_within hd (hready b) (w := second) (.inl rfl) hb
  have hread : Span.read u.scan.cursor.skipBlanks.rest = ⟨.ok ⟨.endOfInput, ""⟩, [], []⟩ := by
    rw [hrest]
    rfl
  have hfinish := Relay.run_of_next_finish hu (Cursor.next_of_read hread) rfl
  rw [hrun, Except.ok.injEq] at hfinish
  refine ⟨u.scan.tokens.toList, _, semicolon, bytes, hfinish, rfl, hsemicolon, ?_⟩
  rw [Dialect.tokenize, Scan.run, ← hfirst, hwithin, hagain, htokens, ← hsecond, hvwithin,
    Relay.run_within_of_rest_eq_nil hv rfl hvrest hvrun]
  simp [second]

end RowSieve

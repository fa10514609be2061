import RowSieve.Proofs.Grammar.Relabelling
import RowSieve.Proofs.Request.Completeness

/-!
# Statements of the stock dialect

`parse_eq_ok_iff`: the stock dialect accepts the statements of its grammar and no others, and the
request is the one that the statement stands for.
-/

namespace RowSieve

open TokenStream Phrase

variable {σ : Type} {s s' : TokenStream}

/-! ### Streams of scanned tokens -/

namespace Dialect

variable {d : Dialect σ} {c : Cursor} {raw labelled : List Token}

theorem Relabelling.head_of_current? (h : d.Relabelling c raw labelled)
    (hc : c.current? = some '(') : ∃ u us, labelled = u :: us ∧ u.kind = .leftParen := by
  obtain ⟨after, hnext⟩ := Cursor.next_leftParen hc
  cases h with
  | finish h hk =>
    rw [hnext] at h
    cases h
    simp at hk
  | token h _ hclass =>
    rw [hnext] at h
    cases h
    refine ⟨_, _, rfl, ?_⟩
    cases hclass with
    | other => rfl
    | keyword hk => simp at hk
    | function hk => simp at hk
    | word hk => simp at hk

theorem Relabelling.called (hd : ∀ w, d.keyword? w ≠ some .function)
    (h : d.Relabelling c raw labelled) :
    ∀ t ts, t :: ts <:+ labelled → t.kind = .function →
      ∃ u us, ts = u :: us ∧ u.kind = .leftParen := by
  induction h with
  | finish hnext hk =>
    intro t ts hsuffix hf
    have ht : t ∈ [_] := hsuffix.subset (.head _)
    rw [List.mem_singleton.1 ht, hk] at hf
    simp at hf
  | token hnext hk hclass hrel ih =>
    intro t ts hsuffix hf
    rcases List.suffix_cons_iff.1 hsuffix with heq | hsuffix
    · cases heq
      cases hclass with
      | other => exact absurd hf (Cursor.kind_ne_function_of_next hnext)
      | keyword _ hw =>
        cases hf
        exact absurd (keyword?_eq_some_iff.2 hw) (hd _)
      | function _ _ hparen =>
        -- The parenthesis was seen in the source, and the next token begins there.
        exact hrel.head_of_current? hparen
      | word => simp at hf
    · exact ih t ts hsuffix hf

theorem Relabelling.numbers (hd : ∀ w, d.keyword? w ≠ some .number)
    (h : d.Relabelling c raw labelled) :
    ∀ t ∈ labelled, t.kind = .number → Decimal.Numeral t.text.toList := by
  induction h with
  | finish hnext hk =>
    intro t ht hn
    rw [List.mem_singleton.1 ht, hk] at hn
    simp at hn
  | token hnext hk hclass hrel ih =>
    intro t ht hn
    rcases List.mem_cons.1 ht with rfl | ht
    · cases hclass with
      | other => exact Cursor.numeral_of_next hnext hn
      | keyword _ hw =>
        cases hn
        exact absurd (keyword?_eq_some_iff.2 hw) (hd _)
      | function => simp at hn
      | word => simp at hn
    · exact ih t ht hn

/-- The stream of a source whose dialect has no keyword for functions or numbers. -/
theorem fit_stream [Strategies σ]
    (hlist : ∀ st ∈ d.statements, ∀ c ∈ st.clauses, c.strategy = .list)
    (hfunction : ∀ w, d.keyword? w ≠ some .function) (hnumber : ∀ w, d.keyword? w ≠ some .number)
    {source : String} {tokens : List Token} (h : d.tokenize source = .ok tokens) (finish : Nat) :
    (ofTokensUpTo tokens finish).Fit := by
  obtain ⟨raw, hrel⟩ := exists_relabelling hlist h
  have hsuffix : (ofTokensUpTo tokens finish).rest <:+ tokens := List.dropWhile_suffix _
  exact ⟨rfl, fun t ts ht => hrel.called hfunction t ts (ht.trans hsuffix),
    fun t ht => hrel.numbers hnumber t (hsuffix.subset ht)⟩

end Dialect

/-! ### Clauses -/

/-- A body is read exactly where a phrase stands, and adds what the phrase says to the request. -/
structure Body.Recognizes {α : Type} (d : Dialect σ) (body : Body) (D : Phrase α)
    (add : α → Request → Request) : Prop where
  /-- What is read is a phrase. -/
  sound : ∀ {s s' : TokenStream} {r r' : Request}, s.Fit → body.read d r s = .ok r' s' →
    ∃ ts a, s.Reads ts s' ∧ D ts a ∧ add a r = r'
  /-- A phrase is read. -/
  complete : ∀ {s s' : TokenStream} {ts a} (r : Request), s.Fit → D ts a → s.Reads ts s' →
    Stops d s' → body.read d r s = .ok (add a r) s'

theorem recognizes_columns (d : Dialect σ) :
    Body.columns.Recognizes d (Separated .comma ResultColumn)
      fun cs r => { r with columns := r.columns ++ cs } where
  sound hs h := by
    simp only [Body.read, bind_remaining] at h
    obtain ⟨cs, s₁, hcs, h⟩ := bind_eq_ok.1 h
    obtain ⟨rfl, rfl⟩ := pure_eq_ok.1 h
    obtain ⟨ts, hts, hphrase⟩ := columnsWithin_sound hs hcs
    exact ⟨ts, cs, hts, hphrase, rfl⟩
  complete r hs h hts hstop := by
    have hlen := hs.length_le hts (h.forall_mem (fun _ ht => isEnd_eq_false_of_kind ht (by decide))
      fun _ _ h => h.isEnd_eq_false)
    simp only [Body.read, bind_remaining]
    exact bind_of_ok (columnsWithin_complete hs h hts hstop (by omega)) _

theorem recognizes_source (d : Dialect σ) :
    Body.source.Recognizes d RowSource fun source r => { r with source := some source } where
  sound hs h := by
    simp only [Body.read, bind_remaining] at h
    obtain ⟨source, s₁, hsource, h⟩ := bind_eq_ok.1 h
    obtain ⟨rfl, rfl⟩ := pure_eq_ok.1 h
    obtain ⟨ts, hts, hphrase⟩ := readSource_sound hs hsource
    exact ⟨ts, source, hts, hphrase, rfl⟩
  complete r hs h hts hstop := by
    simp only [Body.read, bind_remaining]
    exact bind_of_ok (readSource_complete hs h hts hstop) _

theorem recognizes_predicates (d : Dialect σ) :
    Body.predicates.Recognizes d (Separated .andWord Comparing)
      fun ps r => ps.foldl (Request.record d.recording) r where
  sound hs h := by
    simp only [Body.read, bind_remaining] at h
    obtain ⟨ts, ps, hts, hphrase, rfl⟩ := predicatesWithin_sound h
    exact ⟨ts, ps, hts, hphrase, rfl⟩
  complete r hs h hts hstop := by
    have hlen := hs.length_le hts (h.forall_mem (fun _ ht => isEnd_eq_false_of_kind ht (by decide))
      fun _ _ h => h.isEnd_eq_false)
    simp only [Body.read, bind_remaining]
    exact predicatesWithin_complete h hts hstop (by omega) r

theorem recognizes_limit (d : Dialect σ) :
    Body.limit.Recognizes d RowCount fun n r => { r with limit := some n } where
  sound hs h := by
    simp only [Body.read, bind_remaining] at h
    obtain ⟨n, s₁, hn, h⟩ := bind_eq_ok.1 h
    obtain ⟨rfl, rfl⟩ := pure_eq_ok.1 h
    obtain ⟨ts, hts, hphrase⟩ := readLimit_sound hs hn
    exact ⟨ts, n, hts, hphrase, rfl⟩
  complete r hs h hts _ := by
    simp only [Body.read, bind_remaining]
    exact bind_of_ok (readLimit_complete h hts) _

section Clause

variable {α : Type} {d : Dialect σ} {D : Phrase α} {add : α → Request → Request}
  {clause : Clause σ} {clauses : List (Clause σ)} {r r' : Request} {ts : List Token} {a : α}
  {o : Option α} {s₁ : TokenStream}

theorem readClauses_of_kind (h : s.current.kind = clause.keyword) :
    readClauses d (clause :: clauses) r s =
      (do readClauses d clauses (← clause.body.read d r) : Parse Request) s.tail := by
  rw [readClauses, bind_check, if_pos (decide_eq_true h), bind_advance]

theorem Body.Recognizes.required_sound (hbody : clause.body.Recognizes d D add)
    (hclause : clause.optional = false) (hs : s.Fit)
    (h : readClauses d (clause :: clauses) r s = .ok r' s') :
    ∃ t ts a s₁, t.kind = clause.keyword ∧ D ts a ∧ s.Reads (t :: ts) s₁ ∧
      readClauses d clauses (add a r) s₁ = .ok r' s' := by
  by_cases hk : s.current.kind = clause.keyword
  · rw [readClauses_of_kind hk] at h
    obtain ⟨r₁, s₁, hr₁, h⟩ := bind_eq_ok.1 h
    obtain ⟨ts, a, hts, ha, rfl⟩ := hbody.sound hs.tail hr₁
    exact ⟨s.current, ts, a, s₁, hk, ha, ⟨rfl, hts⟩, h⟩
  · simp only [readClauses, bind_check, hk, hclause, decide_false, Bool.false_eq_true, if_false,
      bind_peek] at h
    exact absurd h throw_ne_ok

theorem Body.Recognizes.optional_sound (hbody : clause.body.Recognizes d D add)
    (hclause : clause.optional = true) (hs : s.Fit)
    (h : readClauses d (clause :: clauses) r s = .ok r' s') :
    ∃ ts o s₁, Optionally clause.keyword D ts o ∧ s.Reads ts s₁ ∧
      readClauses d clauses (o.elim r (add · r)) s₁ = .ok r' s' := by
  by_cases hk : s.current.kind = clause.keyword
  · rw [readClauses_of_kind hk] at h
    obtain ⟨r₁, s₁, hr₁, h⟩ := bind_eq_ok.1 h
    obtain ⟨ts, a, hts, ha, rfl⟩ := hbody.sound hs.tail hr₁
    exact ⟨s.current :: ts, some a, s₁, .present hk ha, ⟨rfl, hts⟩, h⟩
  · simp only [readClauses, bind_check, hk, hclause, decide_false, Bool.false_eq_true, if_false,
      if_true] at h
    exact ⟨[], none, s, .absent, rfl, h⟩

theorem Body.Recognizes.clause_complete (hbody : clause.body.Recognizes d D add) (hs : s.Fit)
    {t : Token} (ht : t.kind = clause.keyword) (ha : D ts a) (hts : s.Reads (t :: ts) s₁)
    (hstop : Stops d s₁) :
    readClauses d (clause :: clauses) r s = readClauses d clauses (add a r) s₁ := by
  obtain ⟨rfl, hts⟩ := hts
  rw [readClauses_of_kind ht]
  exact bind_of_ok (hbody.complete r hs.tail ha hts hstop) _

theorem Body.Recognizes.optional_complete (hbody : clause.body.Recognizes d D add)
    (hclause : clause.optional = true) (hs : s.Fit) (h : Optionally clause.keyword D ts o)
    (hts : s.Reads ts s₁) (hstop : Stops d s₁) (hk : s₁.current.kind ≠ clause.keyword) :
    readClauses d (clause :: clauses) r s = readClauses d clauses (o.elim r (add · r)) s₁ := by
  cases h with
  | absent =>
    cases hts
    simp only [readClauses, bind_check, hk, hclause, decide_false, Bool.false_eq_true, if_false,
      if_true, Option.elim_none]
  | present ht ha => exact hbody.clause_complete hs ht ha hts hstop

end Clause

/-! ### The stock dialect -/

/-- The kinds of the keywords of the stock dialect. -/
theorem mem_of_keyword?_sql {w : String} {kind : Kind}
    (h : (sql : Declarations σ).dialect.keyword? w = some kind) :
    kind ∈ Kind.sharedKeywords.map (·.2) := by
  obtain ⟨spelling, hmem⟩ := Declarations.exists_spelling_of_keyword? h
  have hshared : (spelling, kind) ∈ Kind.sharedKeywords := by
    simpa [Declarations.spellings, sql, Declarations.named] using hmem
  exact List.mem_map.2 ⟨_, hshared, rfl⟩

theorem fit_stream_sql [Strategies σ] {source : String} {tokens : List Token}
    (h : (sql : Declarations σ).dialect.tokenize source = .ok tokens) (finish : Nat) :
    (ofTokensUpTo tokens finish).Fit := by
  refine Dialect.fit_stream ?_ (fun w hw => ?_) (fun w hw => ?_) h finish
  · simp [Declarations.dialect, sql]
  · exact absurd (mem_of_keyword?_sql hw) (by decide)
  · exact absurd (mem_of_keyword?_sql hw) (by decide)

theorem endsClause_sql {t : Token} :
    endsClause (sql : Declarations σ).dialect t =
      (t.isEnd || decide (t.kind ∈ [Kind.selectWord, .fromWord, .whereWord, .limitWord])) := by
  simp [endsClause, Dialect.opensClause, Declarations.dialect, sql, eq_comm]

theorem stops_of_isEnd (h : s.current.isEnd = true) :
    Stops (sql : Declarations σ).dialect s where
  ends := by simp [endsClause, h]
  kind := by
    simp only [Token.isEnd, Bool.or_eq_true, decide_eq_true_eq] at h
    rcases h with h | h <;> simp [h]

theorem stops_of_kind (h : s.current.kind ∈ [Kind.fromWord, .whereWord, .limitWord]) :
    Stops (sql : Declarations σ).dialect s where
  ends := by
    rw [endsClause_sql]
    simp only [List.mem_cons, List.not_mem_nil, or_false] at h ⊢
    simp [h]
  kind := by
    simp only [List.mem_cons, List.not_mem_nil, or_false] at h
    rcases h with h | h | h <;> simp [h]

/-! ### Statements -/

/-- The clauses of a selection. -/
abbrev sqlClauses : List (Clause σ) :=
  [⟨.selectWord, .list, .columns, false⟩, ⟨.fromWord, .list, .source, false⟩,
    ⟨.whereWord, .list, .predicates, true⟩, ⟨.limitWord, .list, .limit, true⟩]

theorem statement?_sql (kind : Kind) :
    (sql : Declarations σ).dialect.statement? kind =
      if kind = .selectWord then some ⟨.selectWord, .select, sqlClauses⟩ else none := by
  by_cases h : kind = .selectWord
  · simp [Dialect.statement?, Declarations.dialect, sql, h]
  · simp [Dialect.statement?, Declarations.dialect, sql, h, eq_comm]

/-- What predicates record makes no difference to what is read. -/
theorem exists_selecting_of_readStatement {d : Dialect σ}
    (hd : d.statements = (sql : Declarations σ).statements) {r : Request} (hs : s.Fit)
    (h : readStatement d s = .ok r s') :
    ∃ ts s₁ q, s.Reads ts s₁ ∧ Selecting ts q ∧ q.requestBy d.recording s₁.comments = r ∧
      s' = { s₁ with comments := [] } := by
  have hstatement (kind : Kind) :
      d.statement? kind = (sql : Declarations σ).dialect.statement? kind := by
    rw [Dialect.statement?, Dialect.statement?, hd]
    rfl
  simp only [readStatement, bind_peek, hstatement, statement?_sql] at h
  by_cases hk : s.current.kind = .selectWord
  · simp only [hk, if_true] at h
    obtain ⟨r₄, s₄, h₄, h⟩ := bind_eq_ok.1 h
    obtain ⟨select, cols, cs, s₁, hselect, hcs, hcols, h₄⟩ :=
      (recognizes_columns _).required_sound rfl hs h₄
    have hs₁ := hs.reads hcols
    obtain ⟨fromWord, srcs, source, s₂, hfrom, hsource, hsrcs, h₄⟩ :=
      (recognizes_source _).required_sound rfl hs₁ h₄
    have hs₂ := hs₁.reads hsrcs
    obtain ⟨wheres, ps, s₃, hps, hwheres, h₄⟩ := (recognizes_predicates _).optional_sound rfl hs₂ h₄
    have hs₃ := hs₂.reads hwheres
    obtain ⟨limits, n, s₅, hn, hlimits, h₄⟩ := (recognizes_limit _).optional_sound rfl hs₃ h₄
    obtain ⟨rfl, rfl⟩ := pure_eq_ok.1 h₄
    cases h
    exact ⟨select :: cols ++ fromWord :: srcs ++ wheres ++ limits, s₅, ⟨cs, source, ps, n⟩,
      ((hcols.append hsrcs).append hwheres).append hlimits,
      .intro hselect hcs hfrom hsource hps hn, rfl, rfl⟩
  · simp only [hk, if_false] at h
    exact absurd h throw_ne_ok

theorem readStatement_sound {r : Request} (hs : s.Fit)
    (h : readStatement (sql : Declarations σ).dialect s = .ok r s') :
    ∃ ts s₁ q, s.Reads ts s₁ ∧ Selecting ts q ∧ q.request s₁.comments = r ∧
      s' = { s₁ with comments := [] } := exists_selecting_of_readStatement rfl hs h

theorem stops_of_optionally {α : Type} {D : Phrase α} {keyword : Kind} {ts : List Token}
    {o : Option α} (h : Optionally keyword D ts o) (hts : s.Reads ts s')
    (hk : keyword ∈ [Kind.fromWord, .whereWord, .limitWord])
    (hstop : Stops (sql : Declarations σ).dialect s') : Stops (sql : Declarations σ).dialect s := by
  cases h with
  | absent =>
    cases hts
    exact hstop
  | present ht => exact stops_of_kind (by rw [hts.1, ht]; exact hk)

theorem kind_ne_of_optionally {α : Type} {D : Phrase α} {keyword kind : Kind} {ts : List Token}
    {o : Option α} (h : Optionally keyword D ts o) (hts : s.Reads ts s') (hk : keyword ≠ kind)
    (hnext : s'.current.kind ≠ kind) : s.current.kind ≠ kind := by
  cases h with
  | absent =>
    cases hts
    exact hnext
  | present ht =>
    rw [hts.1, ht]
    exact hk

theorem readStatement_complete {ts : List Token} {q : Selection} (hs : s.Fit)
    (h : Selecting ts q) (hts : s.Reads ts s') (hend : s'.current.isEnd = true) :
    readStatement (sql : Declarations σ).dialect s =
      .ok (q.request s'.comments) { s' with comments := [] } := by
  obtain ⟨hselect, hcs, hfrom, hsource, hps, hn⟩ := h
  obtain ⟨s₃, hts, hlimits⟩ := reads_append.1 hts
  obtain ⟨s₂, hts, hwheres⟩ := reads_append.1 hts
  obtain ⟨s₁, hcols, hsrcs⟩ := reads_append.1 hts
  have hs₁ := hs.reads hcols
  have hs₂ := hs₁.reads hsrcs
  have hs₃ := hs₂.reads hwheres
  -- Each clause ends where the next one begins.
  have hstop : Stops (sql : Declarations σ).dialect s' := stops_of_isEnd hend
  have hstop₃ : Stops (sql : Declarations σ).dialect s₃ :=
    stops_of_optionally hn hlimits (by simp) hstop
  have hstop₂ : Stops (sql : Declarations σ).dialect s₂ :=
    stops_of_optionally hps hwheres (by simp) hstop₃
  have hstop₁ : Stops (sql : Declarations σ).dialect s₁ :=
    stops_of_kind (by rw [hsrcs.1, hfrom]; simp)
  have hlimit : s'.current.kind ≠ .limitWord := fun hk => by simp [Token.isEnd, hk] at hend
  have hwhere : s₃.current.kind ≠ .whereWord :=
    kind_ne_of_optionally hn hlimits (by simp) fun hk => by simp [Token.isEnd, hk] at hend
  have hfirst : s.current.kind = .selectWord := by rw [hcols.1, hselect]
  simp only [readStatement, bind_peek, hfirst, statement?_sql, if_true]
  refine bind_eq_ok.2 ⟨_, s', ?_, rfl⟩
  rw [(recognizes_columns _).clause_complete hs hselect hcs hcols hstop₁,
    (recognizes_source _).clause_complete hs₁ hfrom hsource hsrcs hstop₂,
    (recognizes_predicates _).optional_complete rfl hs₂ hps hwheres hstop₃ hwhere,
    (recognizes_limit _).optional_complete rfl hs₃ hn hlimits hstop hlimit]
  rfl

theorem exists_finishStatement_iff {d : Dialect σ} (hd : d.strict = true) :
    (∃ s', finishStatement d s = .ok () s') ↔ s.current.isEnd = true := by
  cases hend : s.current.isEnd with
  | false =>
    refine iff_of_false ?_ (by simp)
    rintro ⟨s', h⟩
    simp only [finishStatement, bind_peek, hend, hd, Bool.not_false, if_true] at h
    obtain ⟨_, _, ht, -⟩ := bind_eq_ok.1 h
    exact absurd ht throw_ne_ok
  | true =>
    refine iff_of_true ?_ rfl
    simp only [finishStatement, bind_peek, hend, Bool.not_true, Bool.false_eq_true, if_false]
    by_cases hk : s.current.kind = .endOfStatement
    · exact ⟨_, bind_eat_of_kind hk _⟩
    · exact ⟨_, bind_eat_of_kind_ne hk _⟩

theorem eval_eq_ok {α : Type} {p : Parse α} {a : α} :
    p.eval s = .ok a ↔ ∃ s', p s = .ok a s' := by
  unfold Parse.eval
  cases p s <;> simp

/-- **The stock dialect accepts its grammar**: a source is a statement exactly when its tokens up to
the first semicolon, or up to the end, make up a statement of the grammar, and the request is the
one that the statement stands for. -/
theorem parse_eq_ok_iff [Strategies σ] {registry : Registry} {d : Dialect σ}
    (hd : ((sql : Declarations σ).establish registry).1 = .ok d) (source : String) (r : Request) :
    parse d source = .ok r ↔
      ∃ tokens, d.tokenize source = .ok tokens ∧
        ∃ q, Selecting (statementTokens tokens) q ∧ q.Denotes (statementComments tokens) r := by
  obtain rfl := Declarations.eq_dialect_of_establish hd
  cases htokens : (sql : Declarations σ).dialect.tokenize source with
  | error e => simp [parse, Dialect.stream, htokens, Except.map, Except.bind]
  | ok tokens =>
    simp only [parse, Dialect.stream, htokens, Except.map, Except.bind, eval_eq_ok,
      Except.ok.injEq, exists_eq_left', Selection.denotes_iff]
    have hs := fit_stream_sql htokens source.utf8ByteSize
    obtain ⟨s₀, hreads, hend, hcomments⟩ : ∃ s', (ofTokensUpTo tokens source.utf8ByteSize).Reads
        (statementTokens tokens) s' ∧ s'.current.isEnd = true ∧
        s'.comments = statementComments tokens := by
      simpa [ofTokensUpTo] using
        exists_reads_settle (s := ⟨tokens, [], ⟨.endOfInput, "", source.utf8ByteSize⟩⟩) rfl
    constructor
    · rintro ⟨s', h⟩
      obtain ⟨r', s₁, hr, h⟩ := bind_eq_ok.1 h
      obtain ⟨u, s₂, hu, h⟩ := bind_eq_ok.1 h
      obtain ⟨rfl, rfl⟩ := pure_eq_ok.1 h
      obtain ⟨ts, s₁, q, hts, hq, rfl, rfl⟩ := readStatement_sound hs hr
      have hend₁ : s₁.current.isEnd = true :=
        (exists_finishStatement_iff (s := { s₁ with comments := [] }) rfl).1 ⟨_, hu⟩
      -- The statement ends where its tokens do.
      obtain ⟨rfl, rfl⟩ := hts.eq_of_isEnd hreads hq.isEnd_eq_false
        isEnd_eq_false_of_mem_statementTokens hend₁ hend
      exact ⟨q, hq, by rw [hcomments]⟩
    · rintro ⟨q, hq, rfl⟩
      have hread := readStatement_complete (σ := σ) hs hq hreads hend
      obtain ⟨s', hs'⟩ := (exists_finishStatement_iff (d := (sql : Declarations σ).dialect)
        (s := { s₀ with comments := [] }) rfl).2 hend
      rw [hcomments] at hread
      exact ⟨s', bind_eq_ok.2 ⟨_, _, hread, bind_eq_ok.2 ⟨_, _, hs', rfl⟩⟩⟩

/-- A statement with all clauses, in which two predicates are on one field, and its request. -/
theorem parse_eq_ok_iff_where :
    ∃ d : Dialect Empty, ((sql : Declarations Empty).establish .shared).1 = .ok d ∧
      parse d ("/* k */ select f(a, -1), b as c from t " ++
          "where x <> 'y' and n >= -5 and x = z limit 7; x") =
        .ok {
          kind := .select
          columns := [⟨"f(a, -1)", some (.call "f" [.field "a", .number "-1"])⟩,
            ⟨"c", some (.field "b")⟩]
          source := some ⟨"t", [], none⟩
          predicates := (Dictionary.empty.insert "n" "-5").insert "x" "z"
          operators := (Dictionary.empty.insert "n" .greaterEqual).insert "x" .equal
          limit := some 7
          comments := ["k"] } := by
  have hd : ((sql : Declarations Empty).establish .shared).1 =
      .ok (sql : Declarations Empty).dialect := rfl
  let called : List Token := [⟨.function, "f", 15⟩, ⟨.leftParen, "(", 16⟩, ⟨.word, "a", 17⟩,
    ⟨.comma, ",", 18⟩, ⟨.minus, "-", 20⟩, ⟨.number, "1", 21⟩, ⟨.rightParen, ")", 22⟩]
  let aliased : List Token := [⟨.word, "b", 25⟩, ⟨.asWord, "as", 27⟩, ⟨.word, "c", 30⟩]
  let wheres : List Token := [⟨.whereWord, "where", 39⟩, ⟨.word, "x", 45⟩, ⟨.notEqual, "<>", 47⟩,
    ⟨.text, "y", 50⟩, ⟨.andWord, "and", 54⟩, ⟨.word, "n", 58⟩, ⟨.greaterEqual, ">=", 60⟩,
    ⟨.minus, "-", 63⟩, ⟨.number, "5", 64⟩, ⟨.andWord, "and", 66⟩, ⟨.word, "x", 70⟩,
    ⟨.equal, "=", 72⟩, ⟨.word, "z", 74⟩]
  let limits : List Token := [⟨.limitWord, "limit", 76⟩, ⟨.number, "7", 82⟩]
  let statement : List Token := ⟨.selectWord, "select", 8⟩ :: (called ++ ⟨.comma, ",", 23⟩ ::
    aliased) ++ ⟨.fromWord, "from", 32⟩ :: [⟨.word, "t", 37⟩] ++ wheres ++ limits
  have htokens : (sql : Declarations Empty).dialect.tokenize
      ("/* k */ select f(a, -1), b as c from t " ++
        "where x <> 'y' and n >= -5 and x = z limit 7; x") =
      .ok (⟨.comment, "k", 0⟩ :: statement ++
        [⟨.endOfStatement, ";", 83⟩, ⟨.word, "x", 85⟩, ⟨.endOfInput, "", 86⟩]) :=
    Relay.run_of_afterSteps (n := 40) rfl
  have hcalled : ResultColumn called ⟨"f(a, -1)", some (.call "f" [.field "a", .number "-1"])⟩ :=
    .intro (.call rfl (.filled rfl (.cons (t := ⟨.comma, ",", 18⟩) (.field (t := ⟨.word, "a", 17⟩)
      rfl) rfl (.single (.negative rfl rfl))) rfl)) .absent
  have haliased : ResultColumn aliased ⟨"c", some (.field "b")⟩ :=
    .intro (.field (t := ⟨.word, "b", 25⟩) rfl)
      (.present (t := ⟨.asWord, "as", 27⟩) rfl (.intro (t := ⟨.word, "c", 30⟩) rfl))
  have hwheres : Optionally .whereWord (Separated .andWord Comparing) wheres
      (some [⟨"x", .notEqual, "y"⟩, ⟨"n", .greaterEqual, "-5"⟩, ⟨"x", .equal, "z"⟩]) := by
    have hother : Comparing [⟨.word, "x", 45⟩, ⟨.notEqual, "<>", 47⟩, ⟨.text, "y", 50⟩] _ :=
      .intro rfl (.notEqual rfl) (.plain (.inr (.inr rfl)))
    have hleast : Comparing [⟨.word, "n", 58⟩, ⟨.greaterEqual, ">=", 60⟩, ⟨.minus, "-", 63⟩,
        ⟨.number, "5", 64⟩] _ := .intro rfl (.greaterEqual rfl) (.negative rfl rfl)
    have hsame : Comparing [⟨.word, "x", 70⟩, ⟨.equal, "=", 72⟩, ⟨.word, "z", 74⟩] _ :=
      .intro rfl (.equal rfl) (.plain (.inl rfl))
    exact .present rfl (.cons hother (t := ⟨.andWord, "and", 54⟩) rfl
      (.cons hleast (t := ⟨.andWord, "and", 66⟩) rfl (.single hsame)))
  have hlimits : Optionally .limitWord RowCount limits (some 7) :=
    .present rfl (.intro (t := ⟨.number, "7", 82⟩) rfl (by decide) (by decide) (by decide))
  have hstatement : Selecting statement ⟨_, ⟨"t", [], none⟩, _, _⟩ :=
    .intro rfl (.cons hcalled rfl (.single haliased)) rfl (.intro (.inl rfl) .absent .absent)
      hwheres hlimits
  exact ⟨_, hd, (parse_eq_ok_iff hd _ _).2 ⟨_, htokens, _, hstatement,
    Selection.denotes_iff.2 rfl⟩⟩

end RowSieve

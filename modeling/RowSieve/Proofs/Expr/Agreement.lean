import RowSieve.Proofs.Expr.Operands
import RowSieve.Proofs.Request.Columns
import RowSieve.Proofs.Request.Writing

/-!
# Columns as programs

What a column holds is rendered as a program of one bare expression, and the program is the one that
the request makes of the column (`Switches.compile_render`).

A rendered expression is known to be split into tokens of the dialect again (`writes_columnSource`).
The plain scan of a program finds the same tokens without their labels
(`Dialect.Lists.exists_relabelling`), and these are read as the argument they came from
(`compile_of_argument`).
-/

namespace RowSieve

open Phrase

variable {σ : Type} {d : Dialect σ} {fs : Functions} {source : String} {n : Node} {p : Program}
  {ts : List Token} {t : Token}

/-! ### Tokens without labels -/

/-- Where no token has the kind of a keyword, the plain scan is known from what the dialect made
of it. -/
theorem Dialect.Relabelling.eq_map_unlabelled {c : Cursor} {raw labelled : List Token}
    (h : d.Relabelling c raw labelled)
    (hk : ∀ t ∈ labelled, ∀ w, d.keyword? w ≠ some t.kind) : raw = labelled.map .unlabelled := by
  induction h with
  | @finish c after token hnext hend =>
    rw [List.map_singleton, Token.unlabelled_of_kind_ne (by simp [hend])]
  | @token c after token kind raw labelled hnext _ hclass _ ih =>
    obtain ⟨hfirst, hrest⟩ := List.forall_mem_cons.1 hk
    rw [List.map_cons, ← ih hrest]
    refine congrArg (· :: raw) ?_
    cases hclass with
    | other => exact (Token.unlabelled_of_kind_ne (Cursor.kind_ne_function_of_next hnext)).symm
    | keyword _ hw => exact absurd (Dialect.keyword?_eq_some_iff.2 hw) (hfirst _)
    | function hword => simp [Token.unlabelled, ← hword]
    | word hword => simp [Token.unlabelled, ← hword]

/-- What is listed inside a clause is scanned on its own. -/
theorem Dialect.Lists.exists_relabelling [Strategies σ] {st : Statement σ} {ls : List Lexeme}
    (hd : ∀ st ∈ d.statements, ∀ c ∈ st.clauses, c.strategy = .list)
    (hst : ∀ c ∈ st.clauses, c.strategy = .list) (h : d.Lists st source.toList ls) :
    ∃ raw labelled, scan source = .ok raw ∧ d.Relabelling (.start source) raw labelled ∧
      labelled.map Token.lexeme = ls ++ [⟨.endOfInput, ""⟩] := by
  have hinside : (⟨{ Scan.start d source with statement := some st }, .list, 0⟩ : Relay σ).Inside
      d st := ⟨rfl, rfl, hst, rfl, rfl⟩
  obtain ⟨ts, hrun, hlexemes⟩ := h.run _ hinside rfl
  obtain ⟨herror, hok⟩ := Relay.run_of_ready hd hinside.ready
  cases hscan : scan source with
  | error e =>
    rw [herror e hscan] at hrun
    cases hrun
  | ok raw =>
    obtain ⟨labelled, hrun', hrel⟩ := hok raw hscan
    rw [hrun] at hrun'
    obtain rfl : ts = labelled := List.append_cancel_left (Except.ok.inj hrun')
    exact ⟨raw, ts, rfl, hrel, hlexemes⟩

/-! ### Programs of one expression -/

/-- The plain scan of an argument makes a program of one bare expression, or none. -/
theorem compile_of_argument {u : Token} (h : Argument ts n) (hn : n.Portable)
    (hu : u.kind = .endOfInput) (hscan : scan source = .ok (ts.map Token.unlabelled ++ [u])) :
    compile fs source = .ok p ↔
      ∃ e, n.toExpr fs = .ok e ∧ ⟨[.assign Compile.resultName e], none⟩ = p := by
  have hnumbers : ∀ t ∈ ts, t.kind = .number → Decimal.Numeral t.text.toList := by
    intro t ht hk
    have hplain : t.unlabelled = t := Token.unlabelled_of_kind_ne (by simp [hk])
    have hmem := List.mem_map_of_mem (f := Token.unlabelled) ht
    rw [hplain] at hmem
    exact numeral_of_scan hscan t (List.mem_append_left _ hmem) hk
  have hcomments : (ts.map Token.unlabelled ++ [u]).filter (fun t => t.kind ≠ .comment) =
      ts.map Token.unlabelled ++ [u] := by
    refine List.filter_eq_self.2 (List.forall_mem_append.2 ⟨fun t ht => ?_, by simp [hu]⟩)
    have hkinds := h.kind_unlabelled t ht
    simp only [List.mem_cons, List.not_mem_nil, or_false, not_or] at hkinds
    simp [hkinds]
  have hcompile : compile fs source =
      ((Compile.program fs).run (ts.map Token.unlabelled ++ [u])).map (·.1) := by
    simp only [compile, programTokens, hscan, hcomments]
  rw [hcompile, map_eq_ok_iff]
  constructor
  · rintro ⟨⟨q, ts'⟩, hq, rfl⟩
    obtain ⟨e, he, hq, -⟩ := (Compile.program_of_argument h hnumbers hn hu).1 hq
    exact ⟨e, he, hq⟩
  · rintro ⟨e, he, rfl⟩
    exact ⟨_, (Compile.program_of_argument h hnumbers hn hu).2 ⟨e, he, rfl, rfl⟩, rfl⟩

theorem Node.Portable.not_mem_texts (h : n.Portable) : ∀ s ∈ n.texts, '\\' ∉ s.toList := by
  induction h with
  | field => simp [texts]
  | number => simp [texts]
  | text hs => simpa [texts] using hs
  | call _ _ ih =>
    intro s hs
    rw [texts, mem_textsAll_iff] at hs
    obtain ⟨n, hn, hs⟩ := hs
    exact ih n hn s hs

/-- What is written as an argument is compiled as one. -/
theorem compile_of_writes (h : WritesSql Empty Argument source n) (hn : n.Portable) :
    compile fs source = .ok p ↔
      ∃ e, n.toExpr fs = .ok e ∧ ⟨[.assign Compile.resultName e], none⟩ = p := by
  obtain ⟨ls, hspells, hphrase⟩ := h
  have hlists := hspells [] [] (by simp [Dialect.Bounded]) Dialect.lists_nil
  rw [List.append_nil, List.append_nil] at hlists
  obtain ⟨raw, labelled, hscan, hrel, hlexemes⟩ :=
    hlists.exists_relabelling (by simp [Declarations.dialect, sql]) (by simp)
  obtain ⟨ts, es, rfl, hts, hes⟩ := List.map_eq_append_iff.1 hlexemes
  obtain ⟨u, rfl, hend⟩ := List.map_eq_singleton_iff.1 hes
  have hargument := hphrase ts hts
  have hu : u.kind = .endOfInput := congrArg Lexeme.kind hend
  have hkinds : ∀ t ∈ ts ++ [u], ∀ w,
      (sql : Declarations Empty).dialect.keyword? w ≠ some t.kind := by
    have hshared : ∀ kind ∈ Kind.sharedKeywords.map (·.2), kind ∉ [Kind.word, .function, .number,
        .text, .minus, .leftParen, .comma, .rightParen] ∧ kind ≠ .endOfInput := by decide
    refine List.forall_mem_append.2
      ⟨fun t ht w hw => ?_, List.forall_mem_singleton.2 fun w hw => ?_⟩
    · exact (hshared _ (mem_of_keyword?_sql hw)).1 (hargument.kind_mem t ht)
    · exact (hshared _ (mem_of_keyword?_sql hw)).2 hu
  obtain rfl := hrel.eq_map_unlabelled hkinds
  rw [List.map_append, List.map_singleton, Token.unlabelled_of_kind_ne (by simp [hu])] at hscan
  exact compile_of_argument hargument hn hu hscan

/-- **A column and the program of its text agree.**  In every variant of the stock dialect, what is
read into a column stands for an expression exactly if its text compiles, and then the program
assigns that expression to `result` and does nothing else. -/
theorem Switches.compile_render (switches : Switches) {registry : Registry} {d : Dialect Empty}
    (hd : (switches.declarations.establish registry).1 = .ok d) (hn : d.Produces n)
    (hportable : n.Portable) (fs : Functions) :
    ((∃ e, n.toExpr fs = .ok e) ↔ ∃ p, compile fs n.render = .ok p) ∧
      ∀ e, n.toExpr fs = .ok e → compile fs n.render = .ok ⟨[.assign "result" e], none⟩ := by
  obtain rfl := Declarations.eq_dialect_of_establish hd
  obtain ⟨ts, c, hc, rfl, hlegible⟩ := switches.exists_columnSource_of_produces hn
  have hwrites : WritesSql Empty Argument c.source.render c.source :=
    (writes_columnSource hc hlegible hportable.not_mem_texts).mono fun _ h => h.argument
  have hcompile (e : Expr) (he : c.source.toExpr fs = .ok e) :
      compile fs c.source.render = .ok ⟨[.assign "result" e], none⟩ :=
    (compile_of_writes hwrites hportable).2 ⟨e, he, rfl⟩
  refine ⟨⟨fun ⟨e, he⟩ => ⟨_, hcompile e he⟩, fun ⟨p, hp⟩ => ?_⟩, hcompile⟩
  obtain ⟨e, he, -⟩ := (compile_of_writes hwrites hportable).1 hp
  exact ⟨e, he⟩

/-- A call inside a call, a number with a sign and a quote inside a text. -/
theorem Switches.compile_render_nested :
    let d := (Switches.mk false true).declarations.dialect
    let n : Node := .call "concat" [.call "upper" [.field "b"], .text "it's", .number "-5"]
    let e : Expr := .call "concat" [.call "upper" [.field "b"], .text "it's", .integer (-5)]
    d.Produces n ∧ n.Portable ∧ n.toExpr .builtin = .ok e ∧
      ((∃ e, n.toExpr .builtin = .ok e) ↔ ∃ p, compile .builtin n.render = .ok p) ∧
      compile .builtin n.render = .ok ⟨[.assign "result" e], none⟩ := by
  have htokens : ((Switches.mk false true).declarations : Declarations Empty).dialect.tokenize
      "select concat(upper(b), 'it''s', - 5) as c from t" =
      .ok [⟨.selectWord, "select", 0⟩, ⟨.function, "concat", 7⟩, ⟨.leftParen, "(", 13⟩,
        ⟨.function, "upper", 14⟩, ⟨.leftParen, "(", 19⟩, ⟨.word, "b", 20⟩, ⟨.rightParen, ")", 21⟩,
        ⟨.comma, ",", 22⟩, ⟨.text, "it's", 24⟩, ⟨.comma, ",", 31⟩, ⟨.minus, "-", 33⟩,
        ⟨.number, "5", 35⟩, ⟨.rightParen, ")", 36⟩, ⟨.asWord, "as", 38⟩, ⟨.word, "c", 41⟩,
        ⟨.fromWord, "from", 43⟩, ⟨.word, "t", 48⟩, ⟨.endOfInput, "", 49⟩] :=
    Relay.run_of_afterSteps (n := 40) (by rfl)
  intro d n e
  have hd : ((Switches.mk false true).declarations.establish .shared).1 = .ok d := rfl
  have hproduces : d.Produces n := by
    have hparse : parse d "select concat(upper(b), 'it''s', - 5) as c from t" =
        .ok ((⟨[⟨"c", some n⟩], ⟨"t", [], none⟩, none, none⟩ : Selection).request []) := by
      rw [parse_of_tokenize htokens]
      rfl
    exact ⟨_, _, .inl hparse, ⟨"c", some n⟩, .head _, rfl⟩
  have hportable : n.Portable := by
    refine .call (by decide +kernel) ?_
    simp only [List.forall_mem_cons]
    refine ⟨.call (by decide +kernel) ?_, .text (by decide +kernel), .number (by decide +kernel),
      by simp⟩
    exact List.forall_mem_singleton.2 (.field (by decide +kernel))
  have he : n.toExpr .builtin = .ok e := by rfl
  obtain ⟨hiff, hcompile⟩ := Switches.compile_render _ hd hproduces hportable .builtin
  exact ⟨hproduces, hportable, he, hiff, hcompile e he⟩

end RowSieve

import RowSieve.Proofs.Grammar.Backslashes
import RowSieve.Proofs.Request.Columns
import RowSieve.Proofs.Request.Quoting
import RowSieve.Proofs.Request.Variants

/-!
# Columns under their own text

A call that is read into a column is displayed as `Node.render` writes it.  As a column of a
statement, that text is read as the call again exactly if no backslash is in the texts of the call
(`Switches.parse_render_call_iff`).

Rendering doubles the quotes inside a text, but leaves its backslashes alone, and reading a literal
takes two of them for one.  So the texts that are read from a source have at most half of its
backslashes between them (`Switches.two_mul_backslashes_le`), while those that were rendered had all
of them (`Phrase.Argument.count_render`).
-/

namespace RowSieve

open TokenStream Phrase

/-! ### The literals of a phrase -/

namespace Phrase

variable {α : Type} {D : Phrase α} {separator : Kind} {f : α → List String} {ts : List Token}

theorem Separated.literals_eq {as : List α} (h : Separated separator D ts as)
    (hseparator : separator ≠ .text) (hD : ∀ us a, D us a → literals us = f a) :
    literals ts = as.flatMap f := by
  induction h with
  | single ha => simpa using hD _ _ ha
  | cons ha ht _ ih =>
    rw [literals_append, literals_cons_of_ne (ht ▸ hseparator), hD _ _ ha, ih, List.flatMap_cons]

theorem Parenthesized.literals_eq {as : List α} (h : Parenthesized D ts as)
    (hD : ∀ us a, D us a → literals us = f a) : literals ts = as.flatMap f := by
  cases h with
  | empty ho hc =>
    rw [literals_cons_of_ne (by simp [ho]), literals_cons_of_ne (by simp [hc])]
    rfl
  | filled ho has hc =>
    rw [List.cons_append, literals_cons_of_ne (by simp [ho]), literals_append,
      literals_cons_of_ne (by simp [hc]), literals_nil, List.append_nil,
      has.literals_eq (by decide) hD]

end Phrase

theorem Node.textsAll_eq_flatMap (ns : List Node) : textsAll ns = ns.flatMap texts := by
  induction ns with
  | nil => rw [textsAll, List.flatMap_nil]
  | cons n ns ih => rw [textsAll, ih, List.flatMap_cons]

namespace Phrase

variable {ts : List Token} {n : Node} {c : Column}

/-- The literals of an argument are its texts. -/
theorem Argument.literals_eq (h : Argument ts n) : literals ts = n.texts := by
  induction h using Argument.induct with
  | field h => rw [literals_cons_of_ne (by simp [h]), literals_nil, Node.texts]
  | number h => rw [literals_cons_of_ne (by simp [h]), literals_nil, Node.texts]
  | text h => rw [literals_cons_of_text h, literals_nil, Node.texts]
  | negative hm h =>
    rw [literals_cons_of_ne (by simp [hm]), literals_cons_of_ne (by simp [h]), literals_nil,
      Node.texts]
  | @call t ts arguments h _ ih =>
    have hname : t.kind ≠ .text := by rcases h with h | h <;> simp [h]
    rw [literals_cons_of_ne hname, ih.literals_eq fun _ _ h => h.2, Node.texts,
      Node.textsAll_eq_flatMap]

theorem ResultColumn.literals_eq (h : ResultColumn ts c) : literals ts = c.source.texts := by
  obtain @⟨ts, column, us, o, hcolumn, halias⟩ := h
  have hsource : (aliasColumn column o).source = column.source := by cases o <;> rfl
  have halias : literals us = [] := by
    cases halias with
    | absent => rfl
    | present has hword =>
      obtain ⟨h⟩ := hword
      rw [literals_cons_of_ne (by simp [has]), literals_cons_of_ne (by simp [h]), literals_nil]
  rw [literals_append, hcolumn.argument.literals_eq, halias, List.append_nil, hsource]

end Phrase

/-! ### Backslashes in what is rendered -/

theorem IsWord.count_backslash {w : List Char} (h : IsWord w) : w.count '\\' = 0 :=
  List.count_eq_zero.2 fun hmem => absurd (h.all _ hmem) (by decide)

theorem Decimal.Numeral.count_backslash {cs : List Char} (h : Numeral cs) :
    cs.count '\\' = 0 := by
  have hdigits {ds : List Char} (hds : ds.all Char.isDigit) : ds.count '\\' = 0 :=
    List.count_eq_zero.2 fun hmem => absurd (List.all_eq_true.1 hds _ hmem) (by decide)
  cases h with
  | whole _ hcs => exact hdigits hcs
  | fraction _ hcs _ hds => simp [hdigits hcs, hdigits hds]

theorem count_quoteText (s : String) :
    (Node.quoteText s).toList.count '\\' = s.toList.count '\\' := by
  have hinside (cs : List Char) :
      (cs.flatMap fun c => if c = '\'' then ['\'', '\''] else [c]).count '\\' =
        cs.count '\\' := by
    induction cs with
    | nil => rfl
    | cons c cs ih =>
      rw [List.flatMap_cons, List.count_append, ih]
      split
      next h => simp [h]
      next => rw [List.count_singleton, List.count_cons, Nat.add_comm]
  simp [Node.quoteText, hinside]

theorem count_intercalate (texts : List String) :
    (", ".intercalate texts).toList.count '\\' = backslashes texts := by
  induction texts with
  | nil => rfl
  | cons s texts ih =>
    cases texts with
    | nil => simp
    | cons s' texts =>
      rw [String.intercalate_cons_cons, String.toList_append, String.toList_append,
        List.count_append, List.count_append, ih]
      simp

theorem backslashes_map_render {ns : List Node}
    (h : ∀ n ∈ ns, n.render.toList.count '\\' = backslashes n.texts) :
    backslashes (ns.map Node.render) = backslashes (ns.flatMap Node.texts) := by
  induction ns with
  | nil => rfl
  | cons n ns ih =>
    obtain ⟨hn, hns⟩ := List.forall_mem_cons.1 h
    rw [List.map_cons, backslashes_cons, List.flatMap_cons, backslashes_append, hn, ih hns]

/-- Whatever is rendered has the backslashes of its texts. -/
theorem Phrase.Argument.count_render {σ : Type} {d : Dialect σ} {ts : List Token} {n : Node}
    (h : Argument ts n) (hts : ∀ t ∈ ts, t.Legible d) :
    n.render.toList.count '\\' = backslashes n.texts := by
  induction h using Argument.induct with
  | @field t h =>
    rw [Node.render, ((hts t (.head _)).word h).1.count_backslash]
    rfl
  | @number t h =>
    rw [Node.render, ((hts t (.head _)).number h).count_backslash]
    rfl
  | @text t h =>
    rw [Node.render, count_quoteText, Node.texts, backslashes_cons, backslashes_nil, Nat.add_zero]
  | @negative m t hm h =>
    have hnumber := ((hts t (.tail _ (.head _))).number h).count_backslash
    rw [Node.render, String.toList_append, List.count_append, hnumber]
    rfl
  | @call t ts arguments h _ ih =>
    have harguments : ∀ n ∈ arguments, n.render.toList.count '\\' = backslashes n.texts := by
      intro n hn
      obtain ⟨us, ⟨-, hus⟩, hsub⟩ := ih.exists_of_mem n hn
      exact hus fun t ht => hts t (.tail _ (hsub t ht))
    have hname := ((hts t (.head _)).name h).1.count_backslash
    have hparens : "(".toList.count '\\' = 0 ∧ ")".toList.count '\\' = 0 := by decide
    rw [Node.render, Node.renderAll_eq_map, Node.texts, Node.textsAll_eq_flatMap,
      ← backslashes_map_render harguments]
    simp only [String.toList_append, List.count_append, hname, hparens.1, hparens.2,
      count_intercalate, Nat.zero_add, Nat.add_zero]

/-! ### Statements -/

/-- The texts of a row of columns are the literals that they were read from. -/
theorem Phrase.ResultColumn.literals_separated {ts : List Token} {cs : List Column}
    (h : Separated .comma ResultColumn ts cs) :
    literals ts = cs.flatMap (·.source.texts) :=
  h.literals_eq (by decide) fun _ _ => ResultColumn.literals_eq

/-- A statement with one column. -/
theorem parse_columnSource {σ : Type} [Strategies σ] {ts : List Token} {c : Column}
    (h : ColumnSource ts c) (hts : ∀ t ∈ ts, t.Legible (sql : Declarations σ).dialect)
    (hc : ∀ s ∈ c.source.texts, '\\' ∉ s.toList) :
    parse (sql : Declarations σ).dialect ("SELECT " ++ c.source.render ++ " FROM t") =
      .ok ((⟨[c], ⟨"t", [], none⟩, none, none⟩ : Selection).request []) := by
  have hcolumns : WritesSql σ (Separated .comma ResultColumn) c.source.render [c] := by
    refine (writes_columnSource h hts hc).mono fun us hus => .single ?_
    simpa [aliasColumn] using ResultColumn.intro hus .absent
  have hname : IsName "t" := ⟨.intro (by decide) (by decide), by decide +kernel⟩
  have hclauses := writes_clauses (q := ⟨[c], ⟨"t", [], none⟩, none, none⟩) hcolumns
    hname.writes_source Dialect.writes_absent Dialect.writes_absent (fun h => h) fun h => h
  simpa [String.append_assoc] using parse_of_writes hclauses

namespace Switches

variable (switches : Switches) {source : String} {r : Request}

/-- Half of the backslashes of a source, at most, are in the texts of its columns. -/
theorem two_mul_backslashes_le (h : parse switches.declarations.dialect source = .ok r) :
    2 * backslashes (r.columns.flatMap (·.source.texts)) ≤ source.toList.count '\\' := by
  obtain ⟨tokens, s', htokens, hread⟩ := exists_readStatement_of_parse h
  obtain ⟨ts, hcolumns, hsub⟩ :=
    exists_columns_of_readStatement rfl (switches.fit_stream htokens _) hread
  have hsublist : (literals ts).Sublist (literals tokens) :=
    ((hsub.trans (List.dropWhile_suffix _).sublist).filter _).map _
  have hsource := Dialect.two_mul_backslashes_le switches.strategy_eq_list
    (fun w hw => absurd (mem_of_keyword?_sql (σ := Empty) hw) (by decide)) htokens
  have hle := backslashes_le_of_sublist hsublist
  rw [ResultColumn.literals_separated hcolumns] at hle
  omega

/-- What the stock dialect reads, its variants read as well. -/
theorem parse_of_parse_sql (h : parse (sql : Declarations Empty).dialect source = .ok r) :
    parse switches.declarations.dialect source = .ok (r.recordedAs switches.recording) := by
  have hoperand : (sql : Declarations Empty).dialect.recording = .operand := rfl
  have hvariant := Dialect.parse_variant (!switches.lenient) switches.recording source hoperand
    fun _ => rfl
  rw [h] at hvariant
  exact hvariant.resolve_right fun ⟨_, he, _⟩ => nomatch he

/-- **The text of a call is read as the call again exactly if its texts have no backslashes**, in
every variant of the stock dialect and for every call that it reads into a column. -/
theorem parse_render_call_iff {registry : Registry} {d : Dialect Empty}
    (hd : (switches.declarations.establish registry).1 = .ok d) {function : String}
    {arguments : List Node} (hn : d.Produces (.call function arguments)) :
    (∃ r c, parse d ("SELECT " ++ (Node.call function arguments).render ++ " FROM t") = .ok r ∧
        r.columns = [c] ∧ c.expression = some (.call function arguments)) ↔
      ∀ s ∈ (Node.call function arguments).texts, '\\' ∉ s.toList := by
  obtain rfl := Declarations.eq_dialect_of_establish hd
  obtain ⟨ts, c, hc, hsource, hlegible⟩ := switches.exists_columnSource_of_produces hn
  rw [← hsource]
  constructor
  · rintro ⟨r, c', hparse, hcolumns, hexpression⟩
    have hread := switches.two_mul_backslashes_le hparse
    have hrendered := hc.argument.count_render hlegible
    have hc' : c'.source = c.source := by rw [Column.source, hexpression, Option.getD_some]
    have hframe : "SELECT ".toList.count '\\' = 0 ∧ " FROM t".toList.count '\\' = 0 := by decide
    rw [hcolumns, List.flatMap_singleton, hc'] at hread
    simp only [String.toList_append, List.count_append, hframe, hrendered] at hread
    exact backslashes_eq_zero_iff.1 (by omega)
  · intro htexts
    have hparse := switches.parse_of_parse_sql (parse_columnSource hc hlegible htexts)
    refine ⟨_, c, hparse, rfl, ?_⟩
    cases hc with
    | field => cases hsource
    | call => rfl

/-- A quote inside a text, and a call inside a call. -/
theorem parse_render_call_quote :
    let d := (Switches.mk true true).declarations.dialect
    let n : Node := .call "f" [.text "it's", .call "g" []]
    d.Produces n ∧ ∃ r c, parse d ("SELECT " ++ n.render ++ " FROM t") = .ok r ∧
      r.columns = [c] ∧ c.expression = some n := by
  have htokens : (Switches.mk true true).declarations.dialect.tokenize
      "select f('it''s', g ()) as c from t" =
      .ok [⟨.selectWord, "select", 0⟩, ⟨.function, "f", 7⟩, ⟨.leftParen, "(", 8⟩,
        ⟨.text, "it's", 9⟩, ⟨.comma, ",", 16⟩, ⟨.word, "g", 18⟩, ⟨.leftParen, "(", 20⟩,
        ⟨.rightParen, ")", 21⟩, ⟨.rightParen, ")", 22⟩, ⟨.asWord, "as", 24⟩, ⟨.word, "c", 27⟩,
        ⟨.fromWord, "from", 29⟩, ⟨.word, "t", 34⟩, ⟨.endOfInput, "", 35⟩] :=
    Relay.run_of_afterSteps (n := 40) (by rfl)
  intro d n
  have hproduces : d.Produces n := by
    have hparse : parse d "select f('it''s', g ()) as c from t" =
        .ok ((⟨[⟨"c", some n⟩], ⟨"t", [], none⟩, none, none⟩ : Selection).request []) := by
      rw [parse_of_tokenize htokens]
      rfl
    exact ⟨_, _, .inl hparse, ⟨"c", some n⟩, .head _, rfl⟩
  have hd : ((Switches.mk true true).declarations.establish .shared).1 = .ok d := rfl
  exact ⟨hproduces, (parse_render_call_iff ⟨true, true⟩ hd hproduces).2 (by decide)⟩

/-- A backslash in a text is gone when its column is read from its own text. -/
theorem parse_render_call_backslash :
    let d := (Switches.mk false false).declarations.dialect
    let n : Node := .call "f" [.text "a\\b"]
    d.Produces n ∧ ¬ ∃ r c, parse d ("SELECT " ++ n.render ++ " FROM t") = .ok r ∧
      r.columns = [c] ∧ c.expression = some n := by
  have htokens : (Switches.mk false false).declarations.dialect.tokenize
      "SELECT f('a\\\\b') FROM t" =
      .ok [⟨.selectWord, "SELECT", 0⟩, ⟨.function, "f", 7⟩, ⟨.leftParen, "(", 8⟩,
        ⟨.text, "a\\b", 9⟩, ⟨.rightParen, ")", 15⟩, ⟨.fromWord, "FROM", 17⟩, ⟨.word, "t", 22⟩,
        ⟨.endOfInput, "", 23⟩] :=
    Relay.run_of_afterSteps (n := 40) (by rfl)
  have htokens' : (Switches.mk false false).declarations.dialect.tokenize
      ("SELECT " ++ (Node.call "f" [.text "a\\b"]).render ++ " FROM t") =
      .ok [⟨.selectWord, "SELECT", 0⟩, ⟨.function, "f", 7⟩, ⟨.leftParen, "(", 8⟩,
        ⟨.text, "ab", 9⟩, ⟨.rightParen, ")", 14⟩, ⟨.fromWord, "FROM", 16⟩, ⟨.word, "t", 21⟩,
        ⟨.endOfInput, "", 22⟩] :=
    Relay.run_of_afterSteps (n := 40) (by rfl)
  intro d n
  have hproduces : d.Produces n := by
    have hparse : parse d "SELECT f('a\\\\b') FROM t" =
        .ok ((⟨[⟨n.render, some n⟩], ⟨"t", [], none⟩, none, none⟩ : Selection).request []) := by
      rw [parse_of_tokenize htokens]
      rfl
    exact ⟨_, _, .inl hparse, ⟨n.render, some n⟩, .head _, rfl⟩
  have hparse : parse d ("SELECT " ++ n.render ++ " FROM t") =
      .ok ((⟨[⟨"f('ab')", some (.call "f" [.text "ab"])⟩], ⟨"t", [], none⟩, none, none⟩ :
        Selection).request []) := by
    rw [parse_of_tokenize htokens']
    rfl
  refine ⟨hproduces, ?_⟩
  rintro ⟨r, c, hr, hcolumns, hexpression⟩
  rw [hparse] at hr
  cases hr
  cases hcolumns
  have hne : (Node.call "f" [.text "ab"]) ≠ .call "f" [.text "a\\b"] := by simp
  exact hne (Option.some.inj hexpression)

end Switches

end RowSieve

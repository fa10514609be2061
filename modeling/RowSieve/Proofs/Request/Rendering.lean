import RowSieve.Proofs.Request.Writing

/-!
# Requests that are written as statements

`Request.render` writes a request as a statement, and parsing the statement gives the request back
(`parse_render`), as long as its texts and its operands can stand where they are written.  A request
does not keep the order of its predicates, nor predicates that a later one on the same field
replaced: `Request.listed` is what is written of them, and `Selection.Denotes.request_written` says
that it records the same.
-/

namespace RowSieve

open Phrase

variable {σ : Type}

namespace Request

variable {r : Request}

/-- The texts in the expressions of a request. -/
def texts (r : Request) : List String :=
  r.columns.flatMap (·.source.texts) ++ r.source.elim [] fun s => Node.textsAll s.arguments

/-- The predicates of a request in the order in which they are written. -/
def listed (r : Request) : List Predicate :=
  r.predicates.entries.map fun p => ⟨p.1, r.operator p.1, p.2⟩

/-- The predicates that are written, if there are any. -/
def written (r : Request) : Option (List Predicate) :=
  if r.predicates.isEmpty then none else some r.listed

theorem listed_eq_nil_iff : r.listed = [] ↔ r.predicates.isEmpty = true := by
  rw [listed, List.map_eq_nil_iff, Dictionary.isEmpty, List.isEmpty_iff]

theorem getD_written : r.written.getD [] = r.listed := by
  unfold written
  split
  next h => exact (listed_eq_nil_iff.2 h).symm
  next => rfl

theorem render_eq {source : Source} (h : r.source = some source) :
    r.render = "SELECT " ++ (", ".intercalate (r.columns.map Column.render) ++
      (" FROM " ++ source.render) ++
      Dialect.optionalText " WHERE "
        (fun ps => " AND ".intercalate (ps.map fun p => r.renderPredicate p.field p.operand))
        r.written ++
      Dialect.optionalText " LIMIT " toString r.limit) := by
  have hselect : r.kind.display ++ " " = "SELECT " := by
    cases r.kind
    rfl
  have hwheres : (if r.predicates.isEmpty then ""
      else " WHERE " ++
        " AND ".intercalate (r.predicates.entries.map fun p => r.renderPredicate p.1 p.2)) =
      Dialect.optionalText " WHERE "
        (fun ps => " AND ".intercalate (ps.map fun p => r.renderPredicate p.field p.operand))
        r.written := by
    unfold written
    split
    · rfl
    · rw [Dialect.optionalText, listed, List.map_map]
      rfl
  rw [render, hselect, h, hwheres]
  simp only [String.append_assoc]
  cases r.limit <;> rfl

end Request

namespace Selection

variable {q : Selection} {comments : List String} {r : Request}

/-- Each predicate that is recorded was read, with its comparison. -/
theorem Denotes.exists_predicate (h : q.Denotes comments r) {field value : String}
    (hvalue : r.predicates.get? field = some value) :
    ∃ p ∈ q.predicates.getD [], p.field = field ∧ p.operand = value ∧
      r.operators.get? field = some p.operator ∧ r.operator field = p.operator := by
  rw [h.predicates, Option.map_eq_some_iff] at hvalue
  obtain ⟨p, hp, hoperand⟩ := hvalue
  have hmem := List.mem_filter.1 (List.mem_of_getLast? hp)
  have hoperator : r.operators.get? field = some p.operator := by rw [h.operators, hp]; rfl
  exact ⟨p, hmem.1, of_decide_eq_true hmem.2, hoperand, hoperator, by
    rw [Request.operator, hoperator, Option.getD_some]⟩

/-- The predicates that are written record what was recorded. -/
theorem Denotes.request_written (h : q.Denotes comments r) (columns : List Column) :
    (⟨columns, q.source, r.written, r.limit⟩ : Selection).request [] =
      { r with columns := columns, comments := [] } := by
  have hpredicates : r.listed.foldl (fun d p => d.insert p.field p.operand) .empty =
      r.predicates := by
    refine Dictionary.ext_get? fun name => ?_
    rw [Request.listed, List.foldl_map,
      Dictionary.get?_foldl_entries r.predicates fun _ operand => operand, Option.map_id']
  have hoperators : r.listed.foldl (fun d p => d.insert p.field p.operator) .empty =
      r.operators := by
    refine Dictionary.ext_get? fun name => ?_
    rw [Request.listed, List.foldl_map,
      Dictionary.get?_foldl_entries r.predicates fun field _ => r.operator field]
    cases hvalue : r.predicates.get? name with
    | none =>
      -- No operand is recorded without a comparison.
      rw [h.predicates, Option.map_eq_none_iff] at hvalue
      rw [h.operators, hvalue, Option.map_none, Option.map_none]
    | some value =>
      obtain ⟨p, -, -, -, hoperator, hp⟩ := h.exists_predicate hvalue
      rw [hoperator, Option.map_some, hp]
  rw [request_eq, Request.getD_written, hpredicates, hoperators, ← h.source, ← h.kind]

end Selection

section Main

variable [Strategies σ] {r : Request}

theorem writes_predicates {q : Selection} {comments : List String} {ts : List Token}
    (h : q.Denotes comments r)
    (hwheres : Optionally .whereWord (Separated .andWord Comparing) ts q.predicates)
    (hts : ∀ t ∈ ts, t.Legible (sql : Declarations σ).dialect)
    (hvalues : ∀ p ∈ r.predicates.entries, PlainOperand (sql : Declarations σ).dialect p.2) :
    WritesSql σ (Optionally .whereWord (Separated .andWord Comparing))
      (Dialect.optionalText " WHERE "
        (fun ps => " AND ".intercalate (ps.map fun p => r.renderPredicate p.field p.operand))
        r.written) r.written := by
  have hlisted : ∀ p ∈ r.listed, WritesSql σ Comparing (r.renderPredicate p.field p.operand) p := by
    intro p hp
    obtain ⟨⟨field, value⟩, hentry, rfl⟩ := List.mem_map.1 hp
    obtain ⟨p, hmem, rfl, -, -, hoperator⟩ :=
      h.exists_predicate (Dictionary.get?_eq_some_iff_mem.2 hentry)
    generalize q.predicates = o at hwheres hmem
    cases hwheres with
    | absent => cases hmem
    | present _ hps =>
      obtain ⟨us, hus, hsub⟩ := hps.exists_of_mem p hmem
      have hwrites := writes_predicate hus (fun t ht => hts t (.tail _ (hsub t ht))) hoperator
        (hvalues _ hentry)
      rwa [← hoperator] at hwrites
  have hwritten : ∀ ps ∈ r.written, WritesSql σ (Separated .andWord Comparing)
      (" AND ".intercalate (ps.map fun p => r.renderPredicate p.field p.operand)) (id ps) := by
    intro ps hps
    unfold Request.written at hps
    split at hps
    · cases hps
    next hne =>
      cases hps
      have hwrites := joins_and.writes_separated (f := id)
        (fun hnil => hne (Request.listed_eq_nil_iff.1 hnil)) hlisted
      rwa [List.map_id] at hwrites
  have hwrites := joins_where.writes_optionalText hwritten
  rwa [Option.map_id] at hwrites

/-- **Rendering a request and parsing the text gives the request back**: for every request that was
parsed, if no backslash is in its texts, its operands need no quotes, and its source is not named
like a keyword, save as a call with arguments.  The comments are gone, and so is an alias that is
the name of its field; the column holds what it held. -/
theorem parse_render {registry : Registry} {d : Dialect σ}
    (hd : ((sql : Declarations σ).establish registry).1 = .ok d) {source : String}
    (h : parse d source = .ok r) (htexts : ∀ s ∈ r.texts, '\\' ∉ s.toList)
    (hvalues : ∀ p ∈ r.predicates.entries, PlainOperand d p.2)
    (hsource : ∀ s ∈ r.source, s.arguments = [] → d.keyword? s.name = none) :
    parse d r.render =
        .ok { r with columns := r.columns.map Column.forgetOwnName, comments := [] } ∧
      ∀ c ∈ r.columns, c.forgetOwnName.source = c.source := by
  refine ⟨?_, fun c _ => c.source_forgetOwnName⟩
  obtain rfl := Declarations.eq_dialect_of_establish hd
  obtain ⟨ts, q, comments, hq, hr, hlegible⟩ := exists_selecting_of_parse h
  have hdenotes := Selection.denotes_iff.2 hr
  obtain @⟨select, cts, t, sts, wts, lts, _, -, hcolumns, -, hrows, hwheres, hlimits⟩ := hq
  simp only [List.forall_mem_append, List.forall_mem_cons] at hlegible
  obtain ⟨⟨⟨⟨-, hcts⟩, -, hsts⟩, hwts⟩, hlts⟩ := hlegible
  have hwrites := writes_clauses
    (q := ⟨r.columns.map Column.forgetOwnName, q.source, r.written, r.limit⟩)
    (writes_columns (hdenotes.columns ▸ hcolumns) hcts fun c hc s hs => htexts s ?_)
    (writes_source hrows hsts (fun s hs => htexts s ?_) (hsource _ hdenotes.source))
    (writes_predicates hdenotes hwheres hwts hvalues)
    (joins_limit.writes_optionally (hdenotes.limit ▸ hlimits) fun _ _ h _ => writes_rowCount h)
    ((joins_where (σ := σ)).bounded_optionalText _) ((joins_limit (σ := σ)).bounded_optionalText _)
  · rw [Request.render_eq hdenotes.source, parse_of_writes hwrites, hdenotes.request_written]
  · exact List.mem_append_left _ (List.mem_flatMap_of_mem hc hs)
  · rw [Request.texts, hdenotes.source]
    exact List.mem_append_right _ hs

end Main

/-- A statement with all clauses, an alias that says nothing and a quote inside a text. -/
theorem parse_render_all_clauses :
    let d := (sql : Declarations Empty).dialect
    let q : Selection :=
      ⟨[⟨"a", some (.field "a")⟩, ⟨"c", some (.call "f" [.field "b", .text "it's"])⟩],
        ⟨"t", [], none⟩, some [⟨"x", .equal, "-5"⟩], some 7⟩
    let r := q.request []
    parse d "select a as a, f(b, 'it''s') as c from t where x == -5 limit 007" = .ok r ∧
      parse d r.render =
        .ok { r with columns := r.columns.map Column.forgetOwnName, comments := [] } ∧
      ∀ c ∈ r.columns, c.forgetOwnName.source = c.source := by
  have htokens : (sql : Declarations Empty).dialect.tokenize
      "select a as a, f(b, 'it''s') as c from t where x == -5 limit 007" =
      .ok [⟨.selectWord, "select", 0⟩, ⟨.word, "a", 7⟩, ⟨.asWord, "as", 9⟩, ⟨.word, "a", 12⟩,
        ⟨.comma, ",", 13⟩, ⟨.function, "f", 15⟩, ⟨.leftParen, "(", 16⟩, ⟨.word, "b", 17⟩,
        ⟨.comma, ",", 18⟩, ⟨.text, "it's", 20⟩, ⟨.rightParen, ")", 27⟩, ⟨.asWord, "as", 29⟩,
        ⟨.word, "c", 32⟩, ⟨.fromWord, "from", 34⟩, ⟨.word, "t", 39⟩, ⟨.whereWord, "where", 41⟩,
        ⟨.word, "x", 47⟩, ⟨.doubleEqual, "==", 49⟩, ⟨.minus, "-", 52⟩, ⟨.number, "5", 53⟩,
        ⟨.limitWord, "limit", 55⟩, ⟨.number, "007", 61⟩, ⟨.endOfInput, "", 64⟩] :=
    Relay.run_of_afterSteps (n := 40) (by rfl)
  intro d q r
  have hparse : parse d "select a as a, f(b, 'it''s') as c from t where x == -5 limit 007" =
      .ok r := by
    rw [parse_of_tokenize htokens]
    rfl
  have hestablish : ((sql : Declarations Empty).establish .shared).1 = .ok d := rfl
  refine ⟨hparse, parse_render hestablish hparse (by decide) (fun p hp => ?_) fun s hs _ => ?_⟩
  · obtain rfl : p = ("x", "-5") := List.mem_singleton.1 hp
    exact .negative (n := "5") (.whole (by decide) (by decide))
  · obtain rfl : _ = s := Option.some.inj hs
    decide +kernel

end RowSieve

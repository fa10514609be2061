import RowSieve.Proofs.Request.Filtering
import RowSieve.Proofs.Request.Writing
import RowSieve.Query

/-!
# Quoted operands

Whatever a text holds, between quotes it is one token, and the operand of a predicate is the text
again.  `Query.prepare_quoted` follows such an operand from the statement through the request and
its program to the row that is tested: quotes, semicolons, keywords and the marks of comments inside
it make no difference.
-/

namespace RowSieve

open Phrase

/-- The text is a word, and no keyword of the stock dialect. -/
structure IsName (w : String) : Prop where
  /-- It is a word. -/
  word : IsWord w.toList
  /-- It is no keyword. -/
  keyword : (sql : Declarations Empty).dialect.keyword? w = none

section Statements

variable {σ : Type} [Strategies σ] {c s x w operand : String} {operator : Operator}

theorem IsName.spells (h : IsName w) :
    (sql : Declarations σ).dialect.Spells sqlStatement w [⟨.word, w⟩] :=
  Dialect.spells_word h.word ((keyword?_sql w).trans h.keyword)

theorem IsName.writes_columns (h : IsName c) :
    WritesSql σ (Separated .comma ResultColumn) c [.ofField c] :=
  Dialect.writes_token h.spells (fun name => [Column.ofField name])
    fun _ ht => .single (.intro (.field ht) .absent)

theorem IsName.writes_source (h : IsName s) : WritesSql σ RowSource s ⟨s, [], none⟩ :=
  Dialect.writes_token h.spells (fun name => (⟨name, [], none⟩ : Source))
    fun _ ht => .intro (.inl ht) .absent .absent

/-- A quoted text is an operand, and the operand is the text. -/
theorem writes_quoted (t : String) : WritesSql σ Operand (Literal.spell '\'' t) t :=
  Dialect.writes_token (Dialect.spells_literal (.inl rfl) t) id fun _ ht => .plain (.inr (.inr ht))

/-- A statement with one column and one predicate. -/
theorem parse_compared (hc : IsName c) (hs : IsName s) (hx : IsName x) (hw : operator.SpelledBy w)
    {t : String} (ht : WritesSql σ Operand operand t) :
    parse (sql : Declarations σ).dialect
      ("SELECT " ++ c ++ " FROM " ++ s ++ " WHERE " ++ x ++ " " ++ w ++ " " ++ operand) =
      .ok ⟨.select, [.ofField c], some ⟨s, [], none⟩, .ofList [(x, t)], .ofList [(x, operator)], none,
        []⟩ := by
  have hcomparing := writes_comparing hx.word ((keyword?_sql (σ := σ) x).trans hx.keyword) hw ht
  have hwheres : WritesSql σ (Optionally .whereWord (Separated .andWord Comparing))
      (Dialect.optionalText " WHERE " id (some (x ++ (" " ++ w ++ " " ++ operand))))
      (some [⟨x, operator, t⟩]) :=
    joins_where.writes (hcomparing.mono fun _ => Separated.single) fun _ _ => .present
  have hclauses := writes_clauses (q := ⟨[.ofField c], ⟨s, [], none⟩, some [⟨x, operator, t⟩], none⟩)
    hc.writes_columns hs.writes_source hwheres Dialect.writes_absent
    ((joins_where (σ := σ)).bounded_optionalText _) fun h => h
  have hparse := parse_of_writes hclauses
  rw [Selection.request_eq] at hparse
  simpa [Dialect.optionalText, Dictionary.ofList, String.append_assoc] using hparse

end Statements

/-- The program of such a statement. -/
theorem ofRequest_compared (fs : Functions) (c x t : String) (source : Option Source)
    (operator : Operator) :
    Program.ofRequest fs ⟨.select, [.ofField c], source, .ofList [(x, t)], .ofList [(x, operator)],
        none, []⟩ =
      .ok ⟨[.filter (.binary operator (.field x) (Value.ofField t).toExpr), .assign c (.field c)],
        none⟩ := by
  have hoperator : (Dictionary.ofList [(x, operator)]).get? x = some operator := by
    simp [Dictionary.ofList]
  refine Program.ofRequest_eq_ok_iff.2 ⟨[.assign c (.field c)], .cons ⟨.field c, rfl, rfl⟩ .nil, ?_⟩
  have hfilters : (Dictionary.ofList [(x, t)]).entries = [(x, t)] := rfl
  simp [Request.filters, hfilters, Request.filter, Request.operator, hoperator]

theorem readRequest_stock (source : String) :
    readRequest ⟨false, false⟩ source =
      match parse (sql : Declarations Empty).dialect source with
      | .ok r => .ok r
      | .error e => .error (.source e) := rfl

/-- **A quoted operand is compared as it was written.**  Wherever a statement asks for one column
under one condition on a quoted text, there is a program, and it does to every row what the
comparison of the field with the value of the text says: true lets the row pass, false keeps it back,
and where the comparison falls, so does the program. -/
theorem Query.prepare_quoted {c s x w : String} {operator : Operator} (hc : IsName c)
    (hs : IsName s) (hx : IsName x) (hw : operator.SpelledBy w) (fs : Functions) (t : String) :
    ∃ p, Query.prepare fs ⟨false, false⟩ (.request
        ("SELECT " ++ c ++ " FROM " ++ s ++ " WHERE " ++ x ++ " " ++ w ++ " " ++
          Literal.spell '\'' t)) = .ok p ∧
      ∀ header record,
        (∃ b, applyOperator operator (((Row.ofRecord header record).get? x).getD .null)
            (Value.ofField t) = .ok (.boolean b) ∧
          (run fs (Row.ofRecord header record) p.instructions .empty).1 =
            .ok (if b then .passed else .filtered)) ∨
        ∃ e, applyOperator operator (((Row.ofRecord header record).get? x).getD .null)
            (Value.ofField t) = .error e ∧
          (run fs (Row.ofRecord header record) p.instructions .empty).1 = .error e := by
  have hoperator : operator.isComparison := by
    obtain ⟨kind, -, hkind⟩ := hw
    exact Operator.isComparison_of_comparison? hkind
  refine ⟨⟨[.filter (.binary operator (.field x) (Value.ofField t).toExpr), .assign c (.field c)],
    none⟩, ?_, fun header record => ?_⟩
  · rw [Query.prepare, readRequest_stock, parse_compared hc hs hx hw (writes_quoted t)]
    simp [bind, Except.bind, ofRequest_compared]
  · -- Nothing has been written, so the filter sees the record; the assignment behind it cannot fall.
    generalize Row.ofRecord header record = read
    rw [run, eval_comparison hoperator (eval_field _) (eval_toExpr _), seen_empty]
    cases happly : applyOperator operator ((read.get? x).getD .null) (Value.ofField t) with
    | error e => exact .inr ⟨e, rfl, rfl⟩
    | ok v =>
      obtain ⟨b, rfl⟩ := exists_boolean_of_isComparison hoperator happly
      refine .inl ⟨b, rfl, ?_⟩
      cases b <;> rfl

/-- The condition is on a text with a quote, a semicolon, a backslash and what would begin a comment
or another clause, and it keeps back the record that holds this text. -/
theorem Query.prepare_quoted_marks :
    ∃ p, Query.prepare .empty ⟨false, false⟩
        (.request "SELECT a FROM t WHERE x <> 'it''s; -- \\\\ WHERE'") = .ok p ∧
      (run .empty (Row.ofRecord ["a", "x"] ["1", "it's; -- \\ WHERE"]) p.instructions .empty).1 =
        .ok .filtered := by
  have ha : IsName "a" := ⟨.intro (by decide) (by decide), by decide +kernel⟩
  have ht : IsName "t" := ⟨.intro (by decide) (by decide), by decide +kernel⟩
  have hx : IsName "x" := ⟨.intro (by decide) (by decide), by decide +kernel⟩
  have hsign : Operator.notEqual.SpelledBy "<>" := ⟨_, rfl, rfl⟩
  obtain ⟨p, hp, hruns⟩ := Query.prepare_quoted ha ht hx hsign .empty "it's; -- \\ WHERE"
  refine ⟨p, hp, ?_⟩
  have happly : applyOperator .notEqual
      (((Row.ofRecord ["a", "x"] ["1", "it's; -- \\ WHERE"]).get? "x").getD .null)
      (Value.ofField "it's; -- \\ WHERE") = .ok (.boolean false) := rfl
  rcases hruns ["a", "x"] ["1", "it's; -- \\ WHERE"] with ⟨b, hb, hrun⟩ | ⟨e, he, -⟩
  · cases happly.symm.trans hb
    exact hrun
  · cases happly.symm.trans he

end RowSieve

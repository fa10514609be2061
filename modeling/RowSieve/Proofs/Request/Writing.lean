import RowSieve.Proofs.Grammar.Writing
import RowSieve.Proofs.Request.Legible

/-!
# Statements that are written

The rules of `Dialect.Writes` for the phrases of the stock dialect.  What a phrase was read as can
be written again, by `Node.render` and its kin, if the tokens of the phrase were legible and its
texts hold no backslash: `writes_argument`, `writes_column`, `writes_source` and `writes_predicate`.
The clauses are put together by `writes_clauses`, and `parse_of_writes` reads the statement that
they make.

Nothing is lost but an alias that repeats the name of its field: the column comes back as
`Column.forgetOwnName`, which holds the same (`Column.source_forgetOwnName`).
-/

namespace RowSieve

open Phrase

variable {σ : Type}

/-! ### What is written -/

namespace Node

mutual

/-- The texts among the parts of an expression. -/
def texts : Node → List String
  | field _ => []
  | number _ => []
  | text s => [s]
  | call _ arguments => textsAll arguments

/-- The texts among the parts of some expressions. -/
def textsAll : List Node → List String
  | [] => []
  | n :: ns => n.texts ++ textsAll ns

end

theorem mem_textsAll_iff {s : String} {ns : List Node} :
    s ∈ textsAll ns ↔ ∃ n ∈ ns, s ∈ n.texts := by
  induction ns with
  | nil => simp [textsAll]
  | cons n ns ih => simp [textsAll, ih]

theorem renderAll_eq_map (ns : List Node) : renderAll ns = ns.map render := by
  induction ns with
  | nil => rw [renderAll, List.map_nil]
  | cons n ns ih => rw [renderAll, ih, List.map_cons]

/-- A name is not what a call is written as. -/
theorem render_call_ne {w function : String} {arguments : List Node} (hw : IsWord w.toList) :
    (call function arguments).render ≠ w := by
  rintro rfl
  have hparen : '(' ∈ (call function arguments).render.toList := by simp [render]
  exact absurd (hw.all _ hparen) (by decide)

end Node

/-- A field under its own name needs no expression. -/
def Column.forgetOwnName (c : Column) : Column :=
  match c.expression with
  | some (.field name) => if name = c.name then .ofField name else c
  | _ => c

/-- What the column holds stays. -/
theorem Column.source_forgetOwnName (c : Column) : c.forgetOwnName.source = c.source := by
  obtain ⟨name, expression⟩ := c
  unfold forgetOwnName
  split
  next name' h =>
    dsimp only at h
    subst h
    split
    · rfl
    · rfl
  next => rfl

/-- A text that is an operand without quotes. -/
inductive PlainOperand (d : Dialect σ) : String → Prop where
  /-- A single word that is no keyword. -/
  | word {w} : IsWord w.toList → d.keyword? w = none → PlainOperand d w
  /-- A number. -/
  | number {n} : Decimal.Numeral n.toList → PlainOperand d n
  /-- A number right behind a minus. -/
  | negative {n} : Decimal.Numeral n.toList → PlainOperand d ("-" ++ n)

/-! ### The stock dialect -/

/-- The statement of the stock dialect. -/
abbrev sqlStatement : Statement σ := ⟨.selectWord, .select, sqlClauses⟩

/-- The strategies of a dialect make no difference to its keywords. -/
theorem keyword?_sql (w : String) :
    (sql : Declarations σ).dialect.keyword? w = (sql : Declarations Empty).dialect.keyword? w := by
  simp [Dialect.keyword?, Declarations.dialect, Declarations.spellings, sql, Declarations.named]

theorem opensClause_sql (kind : Kind) :
    (sql : Declarations σ).dialect.opensClause kind =
      decide (kind ∈ [Kind.selectWord, .fromWord, .whereWord, .limitWord]) := by
  simp [Dialect.opensClause, Declarations.dialect, sql, eq_comm]

theorem Operator.isComparison_of_comparison? {kind : Kind} {operator : Operator}
    (h : comparison? kind = some operator) : operator.isComparison = true := by
  unfold comparison? at h
  split at h
  all_goals first
    | cases h; rfl
    | cases h

/-- The text is a single mark, which spells the comparison. -/
def Operator.SpelledBy (operator : Operator) (w : String) : Prop :=
  ∃ kind, mark? w.toList = some (kind, w.length) ∧ comparison? kind = some operator

/-- The signs of the comparisons. -/
def Operator.signs : List (String × Operator) :=
  [("=", .equal), ("==", .equal), ("!=", .notEqual), ("<>", .notEqual), ("<", .lessThan),
   ("<=", .lessEqual), (">", .greaterThan), (">=", .greaterEqual)]

/-- There are no other signs. -/
theorem Operator.mem_signs_of_spelledBy {operator : Operator} {w : String}
    (h : operator.SpelledBy w) : (w, operator) ∈ signs := by
  obtain ⟨kind, hmark, hkind⟩ := h
  obtain ⟨cs, rfl⟩ : ∃ cs, w = String.ofList cs := ⟨w.toList, String.ofList_toList.symm⟩
  rw [String.toList_ofList, String.length_ofList] at hmark
  unfold mark? at hmark
  split at hmark
  all_goals simp only [Option.some.injEq, Prod.mk.injEq, List.length_cons, reduceCtorEq] at hmark
  all_goals
    obtain ⟨rfl, hlength⟩ := hmark
    cases hkind
  -- Nothing stands behind the mark.
  all_goals
    simp only [Nat.right_eq_add, List.length_eq_zero_iff] at hlength
    subst hlength
    decide

/-- The text is the spelling of a phrase in a statement of the stock dialect. -/
abbrev WritesSql (σ : Type) [Strategies σ] {α : Type} (D : Phrase α) (s : String) (a : α) : Prop :=
  (sql : Declarations σ).dialect.Writes sqlStatement D s a

section Phrases

variable [Strategies σ]

theorem joins_sql {w : String} {kind : Kind} (hw : IsWord w.toList)
    (hk : (sql : Declarations Empty).dialect.keyword? w = some kind) :
    (sql : Declarations σ).dialect.Joins sqlStatement (" " ++ w ++ " ") kind := by
  rw [← keyword?_sql (σ := σ)] at hk
  refine Dialect.joins_keyword hw hk ?_ fun hopens => ?_
  · rintro rfl
    exact absurd (mem_of_keyword?_sql hk) (by decide)
  · rw [opensClause_sql, decide_eq_true_eq] at hopens
    simp only [List.mem_cons, List.not_mem_nil, or_false] at hopens
    rcases hopens with rfl | rfl | rfl | rfl <;> exact ⟨_, rfl⟩

theorem joins_as : (sql : Declarations σ).dialect.Joins sqlStatement " AS " .asWord :=
  joins_sql (w := "AS") (.intro (by decide) (by decide)) (by decide +kernel)

theorem joins_and : (sql : Declarations σ).dialect.Joins sqlStatement " AND " .andWord :=
  joins_sql (w := "AND") (.intro (by decide) (by decide)) (by decide +kernel)

theorem joins_from : (sql : Declarations σ).dialect.Joins sqlStatement " FROM " .fromWord :=
  joins_sql (w := "FROM") (.intro (by decide) (by decide)) (by decide +kernel)

theorem joins_where : (sql : Declarations σ).dialect.Joins sqlStatement " WHERE " .whereWord :=
  joins_sql (w := "WHERE") (.intro (by decide) (by decide)) (by decide +kernel)

theorem joins_limit : (sql : Declarations σ).dialect.Joins sqlStatement " LIMIT " .limitWord :=
  joins_sql (w := "LIMIT") (.intro (by decide) (by decide)) (by decide +kernel)

/-! ### Expressions -/

/-- A call is written with its name and its arguments, wherever calls may stand. -/
theorem writes_render_call {α : Type} {E : Phrase α} {a : α} {t : Token} {arguments : List Node}
    (ht : t.Legible (sql : Declarations σ).dialect) (hk : t.kind = .word ∨ t.kind = .function)
    (harguments : ∀ n ∈ arguments, WritesSql σ Argument n.render n)
    (hE : ∀ u us, u.kind = .function → u.text = t.text → Parenthesized Argument us arguments →
      E (u :: us) a) :
    WritesSql σ E (Node.call t.text arguments).render a := by
  obtain ⟨hw, hopens⟩ := ht.name hk
  rw [Node.render, Node.renderAll_eq_map]
  refine Dialect.writes_call hw hopens (f := id) harguments fun u us hu htext hus => ?_
  rw [List.map_id] at hus
  exact hE u us hu htext hus

/-- What an argument was read as can be written. -/
theorem writes_argument {ts : List Token} {n : Node} (h : Argument ts n)
    (hts : ∀ t ∈ ts, t.Legible (sql : Declarations σ).dialect)
    (hn : ∀ s ∈ n.texts, '\\' ∉ s.toList) : WritesSql σ Argument n.render n := by
  induction h using Argument.induct with
  | @field t h =>
    obtain ⟨hw, hk⟩ := (hts t (.head _)).word h
    rw [Node.render]
    exact Dialect.writes_token (Dialect.spells_word hw hk) Node.field fun _ => .field
  | @number t h =>
    have hnumber := (hts t (.head _)).number h
    rw [Node.render]
    exact Dialect.writes_token (Dialect.spells_number hnumber) Node.number fun _ => .number
  | @text t h =>
    have htext := hn t.text (by simp [Node.texts])
    rw [Node.render]
    exact Dialect.writes_token (Dialect.spells_quoteText htext) Node.text fun _ => .text
  | @negative m t hm h =>
    have hnumber := (hts t (.tail _ (.head _))).number h
    rw [Node.render]
    exact Dialect.writes_negative hnumber (fun n => Node.number ("-" ++ n))
      fun _ _ => Argument.negative
  | @call t ts arguments h hargs ih =>
    have harguments : ∀ n ∈ arguments, WritesSql σ Argument n.render n := by
      intro n hmem
      obtain ⟨us, ⟨-, hus⟩, hsub⟩ := ih.exists_of_mem n hmem
      refine hus (fun t ht => hts t (.tail _ (hsub t ht))) fun s hs => hn s ?_
      rw [Node.texts, Node.mem_textsAll_iff]
      exact ⟨n, hmem, hs⟩
    refine writes_render_call (hts t (.head _)) h harguments fun u us hu htext hus => ?_
    rw [← htext]
    exact .call (.inr hu) hus

theorem writes_arguments {ts : List Token} {ns : List Node} (h : Parenthesized Argument ts ns)
    (hts : ∀ t ∈ ts, t.Legible (sql : Declarations σ).dialect)
    (hns : ∀ s ∈ Node.textsAll ns, '\\' ∉ s.toList) :
    ∀ n ∈ ns, WritesSql σ Argument n.render n := by
  intro n hmem
  obtain ⟨us, hus, hsub⟩ := h.exists_of_mem n hmem
  exact writes_argument hus (fun t ht => hts t (hsub t ht)) fun s hs =>
    hns s (Node.mem_textsAll_iff.2 ⟨n, hmem, hs⟩)

/-! ### Columns -/

theorem writes_columnSource {ts : List Token} {c : Column} (h : ColumnSource ts c)
    (hts : ∀ t ∈ ts, t.Legible (sql : Declarations σ).dialect)
    (hc : ∀ s ∈ c.source.texts, '\\' ∉ s.toList) :
    WritesSql σ ColumnSource c.source.render c := by
  cases h with
  | @field t h =>
    obtain ⟨hw, hk⟩ := (hts t (.head _)).word h
    exact Dialect.writes_token (Dialect.spells_word hw hk) Column.ofField fun _ => .field
  | @call t ts arguments h hargs =>
    have harguments := writes_arguments hargs (fun t ht => hts t (.tail _ ht)) fun s hs => hc s (by
      rwa [Column.source, Option.getD_some, Node.texts])
    refine writes_render_call (hts t (.head _)) (.inr h) harguments fun u us hu htext hus => ?_
    rw [← htext]
    exact .call hu hus

theorem writes_alias {o : Option String} {ts : List Token} (h : Optionally .asWord Word ts o)
    (hts : ∀ t ∈ ts, t.Legible (sql : Declarations σ).dialect) :
    WritesSql σ (Optionally .asWord Word) (Dialect.optionalText " AS " id o) o := by
  refine joins_as.writes_optionally h fun us name hname hsub => ?_
  obtain @⟨t, ht⟩ := hname
  obtain ⟨hw, hk⟩ := (hts t (hsub t (.head _))).word ht
  exact Dialect.writes_token (Dialect.spells_word hw hk) id fun _ => .intro

/-- Without an alias, a column is written as what it holds. -/
theorem render_of_columnSource {ts : List Token} {c : Column} (h : ColumnSource ts c) :
    c.render = c.source.render ∧ c.forgetOwnName = c := by
  cases h with
  | field => exact ⟨rfl, rfl⟩
  | call => exact ⟨if_pos rfl, rfl⟩

/-- Under another name than the text of its expression, a column is written with the name. -/
theorem Column.render_of_ne {name : String} {e : Node} (h : e.render ≠ name) :
    (⟨name, some e⟩ : Column).render = e.render ++ Dialect.optionalText " AS " id (some name) ∧
      (⟨name, some e⟩ : Column).forgetOwnName = ⟨name, some e⟩ := by
  refine ⟨?_, ?_⟩
  · have hrender : (⟨name, some e⟩ : Column).render = e.render ++ " AS " ++ name := if_neg h
    rw [hrender, String.append_assoc]
    rfl
  · unfold forgetOwnName
    split
    next name' he =>
      cases he
      exact if_neg h
    next => rfl

theorem writes_column {ts : List Token} {c : Column} (h : ResultColumn ts c)
    (hts : ∀ t ∈ ts, t.Legible (sql : Declarations σ).dialect)
    (hc : ∀ s ∈ c.source.texts, '\\' ∉ s.toList) :
    WritesSql σ ResultColumn c.render c.forgetOwnName := by
  obtain @⟨ts, column, us, o, hcolumn, halias⟩ := h
  rw [List.forall_mem_append] at hts
  have hsource : (aliasColumn column o).source = column.source := by cases o <;> rfl
  rw [hsource] at hc
  have hwrites := writes_columnSource hcolumn hts.1 hc
  have hplain : WritesSql σ ResultColumn column.source.render column :=
    hwrites.mono fun ts h => by simpa [aliasColumn] using ResultColumn.intro h .absent
  cases o with
  | none =>
    obtain ⟨hrender, hforget⟩ := render_of_columnSource hcolumn
    rw [aliasColumn, hrender, hforget]
    exact hplain
  | some name =>
    rw [aliasColumn]
    by_cases hname : column.source.render = name
    · -- Only a field is written as a name.
      cases hcolumn with
      | @field t h =>
        obtain rfl : t.text = name := hname
        have hrender : (⟨t.text, some (Column.ofField t.text).source⟩ : Column).render = t.text :=
          if_pos rfl
        have hforget : (⟨t.text, some (Column.ofField t.text).source⟩ : Column).forgetOwnName =
            .ofField t.text := if_pos rfl
        rw [hrender, hforget]
        exact hplain
      | call =>
        cases halias with
        | present _ hword =>
          obtain @⟨u, hu⟩ := hword
          exact absurd hname (Node.render_call_ne ((hts.2 u (by simp)).word hu).1)
    · obtain ⟨hrender, hforget⟩ := Column.render_of_ne hname
      rw [hrender, hforget]
      exact hwrites.append (writes_alias halias hts.2) ((joins_as (σ := σ)).bounded_optionalText _)
        fun ts us => ResultColumn.intro

theorem writes_columns {ts : List Token} {cs : List Column}
    (h : Separated .comma ResultColumn ts cs)
    (hts : ∀ t ∈ ts, t.Legible (sql : Declarations σ).dialect)
    (hcs : ∀ c ∈ cs, ∀ s ∈ c.source.texts, '\\' ∉ s.toList) :
    WritesSql σ (Separated .comma ResultColumn)
      (", ".intercalate (cs.map Column.render)) (cs.map Column.forgetOwnName) := by
  refine Dialect.joins_comma.writes_separated h.ne_nil fun c hc => ?_
  obtain ⟨us, hus, hsub⟩ := h.exists_of_mem c hc
  exact writes_column hus (fun t ht => hts t (hsub t ht)) (hcs c hc)

/-! ### Sources, predicates and limits -/

/-- A source without its alias. -/
inductive NamedSource : Phrase (String × List Node) where
  /-- Its name and its arguments. -/
  | intro {t ts arguments} : t.kind = .word ∨ t.kind = .function → SourceArguments ts arguments →
    NamedSource (t :: ts) (t.text, arguments)

theorem writes_namedSource {t : Token} {ts : List Token} {arguments : List Node}
    (ht : t.Legible (sql : Declarations σ).dialect) (hk : t.kind = .word ∨ t.kind = .function)
    (h : SourceArguments ts arguments)
    (hts : ∀ t ∈ ts, t.Legible (sql : Declarations σ).dialect)
    (htexts : ∀ s ∈ Node.textsAll arguments, '\\' ∉ s.toList)
    (hname : arguments = [] → (sql : Declarations σ).dialect.keyword? t.text = none) :
    WritesSql σ NamedSource
      (t.text ++ if arguments.isEmpty then ""
        else "(" ++ ", ".intercalate (Node.renderAll arguments) ++ ")") (t.text, arguments) := by
  by_cases hempty : arguments = []
  · subst hempty
    have hspells : (sql : Declarations σ).dialect.Spells sqlStatement t.text [⟨.word, t.text⟩] :=
      Dialect.spells_word (ht.name hk).1 (hname rfl)
    have hwrites := Dialect.writes_token hspells (fun w => ((w, []) : String × List Node))
      fun u hu => NamedSource.intro (.inl hu) .absent
    simpa using hwrites
  · have hcall : t.text ++ (if arguments.isEmpty then ""
        else "(" ++ ", ".intercalate (Node.renderAll arguments) ++ ")") =
        (Node.call t.text arguments).render := by
      simp [hempty, Node.render, String.append_assoc]
    rw [hcall]
    cases h with
    | absent => exact absurd rfl hempty
    | present hargs =>
      have harguments := writes_arguments hargs hts htexts
      refine writes_render_call ht hk harguments fun u us hu htext hus => ?_
      rw [← htext]
      exact .intro (.inr hu) (.present hus)

theorem writes_source {ts : List Token} {source : Source} (h : RowSource ts source)
    (hts : ∀ t ∈ ts, t.Legible (sql : Declarations σ).dialect)
    (htexts : ∀ s ∈ Node.textsAll source.arguments, '\\' ∉ s.toList)
    (hname : source.arguments = [] →
      (sql : Declarations σ).dialect.keyword? source.name = none) :
    WritesSql σ RowSource source.render source := by
  obtain @⟨t, ts, arguments, us, o, hk, harguments, halias⟩ := h
  rw [List.forall_mem_append, List.forall_mem_cons] at hts
  have hnamed := writes_namedSource hts.1.1 hk harguments hts.1.2 htexts hname
  have hrender : (⟨t.text, arguments, o⟩ : Source).render =
      (t.text ++ if arguments.isEmpty then ""
        else "(" ++ ", ".intercalate (Node.renderAll arguments) ++ ")") ++
      Dialect.optionalText " AS " id o := by cases o <;> rfl
  rw [hrender]
  refine hnamed.append (writes_alias halias hts.2) ((joins_as (σ := σ)).bounded_optionalText o)
    fun vs ws hvs hws => ?_
  generalize hp : (t.text, arguments) = p at hvs
  obtain ⟨hu, hargs⟩ := hvs
  obtain ⟨htext, rfl⟩ := Prod.mk.inj hp
  rw [htext]
  exact .intro hu hargs hws

/-- A sign of a comparison makes a token of its kind. -/
theorem exists_joins_of_spelledBy {operator : Operator} {w : String} (h : operator.SpelledBy w) :
    ∃ kind, Operator.comparison? kind = some operator ∧
      (sql : Declarations σ).dialect.Joins sqlStatement (" " ++ w ++ " ") kind := by
  have hsigns := Operator.mem_signs_of_spelledBy h
  simp only [Operator.signs, List.mem_cons, List.not_mem_nil, or_false, Prod.mk.injEq] at hsigns
  rcases hsigns with ⟨rfl, rfl⟩ | ⟨rfl, rfl⟩ | ⟨rfl, rfl⟩ | ⟨rfl, rfl⟩ | ⟨rfl, rfl⟩ | ⟨rfl, rfl⟩ |
    ⟨rfl, rfl⟩ | ⟨rfl, rfl⟩ <;>
  exact ⟨_, rfl, Dialect.joins_mark rfl (fun _ => rfl) (by decide) (by decide)⟩

/-- The sign that a comparison is rendered with. -/
theorem spelledBy_symbol {operator : Operator} (h : operator.isComparison = true) :
    operator.SpelledBy (if operator = .equal then "=" else operator.symbol) := by
  cases operator with
  | equal | notEqual | lessThan | greaterThan | lessEqual | greaterEqual => exact ⟨_, rfl, rfl⟩
  | add | subtract | multiply | divide | modulo | and | or => cases h

/-- A field, a sign and an operand. -/
theorem writes_comparing {operator : Operator} {f w v operand : String} (hf : IsWord f.toList)
    (hk : (sql : Declarations σ).dialect.keyword? f = none) (hw : operator.SpelledBy w)
    (hv : WritesSql σ Operand v operand) :
    WritesSql σ Comparing (f ++ (" " ++ w ++ " " ++ v)) ⟨f, operator, operand⟩ := by
  obtain ⟨kind, hkind, hjoins⟩ := exists_joins_of_spelledBy (σ := σ) hw
  have hoperand : WritesSql σ (fun us v => ∃ o vs, us = o :: vs ∧ o.kind = kind ∧ Operand vs v)
      (" " ++ w ++ " " ++ v) operand :=
    hjoins.writes hv fun o vs ho hvs => ⟨o, vs, rfl, ho, hvs⟩
  have hfield : WritesSql σ (fun ts name => ∃ t, ts = [t] ∧ t.kind = .word ∧ t.text = name) f f :=
    Dialect.writes_of_spells (Dialect.spells_word hf hk) fun t ht htext => ⟨t, rfl, ht, htext⟩
  refine hfield.append hoperand (fun _ => hjoins.bounded_append _ _) fun ts us hts hus => ?_
  obtain ⟨t, rfl, ht, htext⟩ := hts
  obtain ⟨o, vs, rfl, rfl, hvs⟩ := hus
  rw [← htext]
  exact .intro ht (comparison?_eq_some_iff.1 hkind) hvs

theorem writes_operand {v : String} (h : PlainOperand (sql : Declarations σ).dialect v) :
    WritesSql σ Operand v v := by
  cases h with
  | word hw hk =>
    exact Dialect.writes_token (Dialect.spells_word hw hk) id fun _ hu => .plain (.inl hu)
  | number hn =>
    exact Dialect.writes_token (Dialect.spells_number hn) id fun _ hu => .plain (.inr (.inl hu))
  | negative hn => exact Dialect.writes_negative hn ("-" ++ ·) fun _ _ => .negative

theorem writes_predicate {r : Request} {ts : List Token} {p : Predicate} (h : Comparing ts p)
    (hts : ∀ t ∈ ts, t.Legible (sql : Declarations σ).dialect)
    (hoperator : r.operator p.field = p.operator) {v : String}
    (hv : PlainOperand (sql : Declarations σ).dialect v) :
    WritesSql σ Comparing (r.renderPredicate p.field v) ⟨p.field, p.operator, v⟩ := by
  obtain @⟨f, o, operator, ts, operand, hf, ho, -⟩ := h
  dsimp only at hoperator ⊢
  obtain ⟨hw, hk⟩ := (hts f (.head _)).word hf
  have hcomparison := Operator.isComparison_of_comparison? (comparison?_eq_some_iff.2 ho)
  have hsign := spelledBy_symbol hcomparison
  have hwrites := writes_comparing hw hk hsign (writes_operand hv)
  rw [Request.renderPredicate, hoperator]
  simpa only [String.append_assoc] using hwrites

theorem writes_rowCount {ts : List Token} {n : Nat} (h : RowCount ts n) :
    WritesSql σ RowCount (toString n) n := by
  have hn : n < 2 ^ 64 := by
    obtain ⟨-, -, -, hlt⟩ := h
    exact hlt
  have hdigits : (toString n).toList = Nat.toDigits 10 n := Nat.toList_repr
  have hne : (toString n).toList ≠ [] := by
    rw [hdigits]
    exact Nat.toDigits_ne_nil
  have hall : (toString n).toList.all Char.isDigit = true := by
    rw [hdigits]
    exact Decimal.all_isDigit_toDigits n
  have hvalue : Decimal.digitsValue 0 (toString n).toList = n := by
    rw [hdigits]
    exact Decimal.digitsValue_toDigits n
  refine Dialect.writes_of_spells (Dialect.spells_number (.whole hne hall)) fun t ht htext => ?_
  have hcount := RowCount.intro (t := t) ht (by rwa [htext]) (by rwa [htext])
    (by rwa [htext, hvalue])
  rwa [htext, hvalue] at hcount

/-! ### Statements -/

/-- What follows the first keyword of a statement. -/
def Clauses : Phrase Selection := fun ts q =>
  ∀ select : Token, select.kind = .selectWord → Selecting (select :: ts) q

theorem writes_clauses {q : Selection} {columns source wheres limits : String}
    (hcolumns : WritesSql σ (Separated .comma ResultColumn) columns q.columns)
    (hsource : WritesSql σ RowSource source q.source)
    (hwheres : WritesSql σ (Optionally .whereWord (Separated .andWord Comparing)) wheres
      q.predicates)
    (hlimits : WritesSql σ (Optionally .limitWord RowCount) limits q.limit)
    (hwheres' : ∀ {rest}, Dialect.Bounded rest → Dialect.Bounded (wheres.toList ++ rest))
    (hlimits' : ∀ {rest}, Dialect.Bounded rest → Dialect.Bounded (limits.toList ++ rest)) :
    WritesSql σ Clauses (columns ++ (" FROM " ++ source) ++ wheres ++ limits) q := by
  have hfrom : WritesSql σ (fun ts s => ∃ t us, ts = t :: us ∧ t.kind = .fromWord ∧ RowSource us s)
      (" FROM " ++ source) q.source :=
    joins_from.writes hsource fun t us ht hus => ⟨t, us, rfl, ht, hus⟩
  obtain ⟨cls, hcls, hcolumns⟩ := hcolumns
  obtain ⟨fls, hfls, hfrom⟩ := hfrom
  obtain ⟨wls, hwls, hwheres⟩ := hwheres
  obtain ⟨lls, hlls, hlimits⟩ := hlimits
  have hspells := ((hcls.append hfls fun _ => (joins_from (σ := σ)).bounded_append _ _).append hwls
    hwheres').append hlls hlimits'
  refine ⟨_, hspells, fun ts hts select hselect => ?_⟩
  obtain ⟨ts, ls, rfl, hts, hls⟩ := List.map_eq_append_iff.1 hts
  obtain ⟨ts, ws, rfl, hts, hws⟩ := List.map_eq_append_iff.1 hts
  obtain ⟨cs, fs, rfl, hcs, hfs⟩ := List.map_eq_append_iff.1 hts
  obtain ⟨t, us, rfl, ht, hus⟩ := hfrom fs hfs
  exact .intro hselect (hcolumns cs hcs) ht hus (hwheres ws hws) (hlimits ls hls)

/-- A statement that is written is read. -/
theorem parse_of_writes {clauses : String} {q : Selection} (h : WritesSql σ Clauses clauses q) :
    parse (sql : Declarations σ).dialect ("SELECT " ++ clauses) = .ok (q.request []) := by
  obtain ⟨ls, hspells, hphrase⟩ := h
  have hlists : (sql : Declarations σ).dialect.Lists sqlStatement (' ' :: clauses.toList) ls := by
    have hclauses := hspells [] [] (by simp [Dialect.Bounded]) Dialect.lists_nil
    rw [List.append_nil, List.append_nil] at hclauses
    exact Dialect.lists_blank.2 hclauses
  have hselect : (sql : Declarations σ).dialect.keyword? "SELECT" = some .selectWord := by
    rw [keyword?_sql]
    decide +kernel
  have hsource : ("SELECT " ++ clauses).toList = "SELECT".toList ++ ' ' :: clauses.toList := by
    rw [String.toList_append]
    rfl
  have hword : IsWord "SELECT".toList := .intro (by decide) (by decide)
  obtain ⟨tokens, htokens, hlexemes⟩ := Dialect.exists_tokenize_of_lists hsource hword
    (by simp; decide) hselect (statement?_sql _) (by simp) rfl hlists
  obtain ⟨ts, es, rfl, hts, hes⟩ := List.map_eq_append_iff.1 hlexemes
  obtain ⟨select, us, rfl, hfirst, hus⟩ := List.map_eq_cons_iff.1 hts
  obtain ⟨e, rfl, he⟩ := List.map_eq_singleton_iff.1 hes
  have hkind : select.kind = .selectWord := congrArg Lexeme.kind hfirst
  have hend : e.kind = .endOfInput := congrArg Lexeme.kind he
  have hq : Selecting (select :: us) q := hphrase us hus select hkind
  have hcomments : ∀ t ∈ select :: us, TokenStream.isComment t = false := by
    refine List.forall_mem_cons.2 ⟨by simp [TokenStream.isComment, hkind], fun t ht => ?_⟩
    have hsignificant := hlists.significant t.lexeme (hus ▸ List.mem_map_of_mem ht)
    exact decide_eq_false hsignificant
  obtain ⟨hstatement, hnone⟩ := TokenStream.statementTokens_append hq.isEnd_eq_false hcomments
    (e := e) (by simp [Token.isEnd, hend])
  rw [parse_of_selecting htokens (by rwa [hstatement]), hnone]

end Phrases

end RowSieve

import RowSieve.Decimal.Reading
import RowSieve.Proofs.Grammar.Phrase
import RowSieve.Request.Basic

/-!
# The grammar of the stock dialect

Which tokens make up a statement of the stock dialect, and what the statement says: a `Selection`.
One inductive type stands for each rule of the grammar.  Nothing here depends on how statements are
read.

`Selection.Denotes` says which request a selection stands for; of several predicates on one field
the last one counts.
-/

namespace RowSieve

namespace Phrase

/-- An argument of a call. -/
inductive Argument : Phrase Node where
  /-- A field. -/
  | field {t} : t.kind = .word → Argument [t] (.field t.text)
  /-- A number. -/
  | number {t} : t.kind = .number → Argument [t] (.number t.text)
  /-- A text. -/
  | text {t} : t.kind = .text → Argument [t] (.text t.text)
  /-- A number with a sign. -/
  | negative {m t} : m.kind = .minus → t.kind = .number →
    Argument [m, t] (.number ("-" ++ t.text))
  /-- Another call, of a word or a function. -/
  | call {t ts arguments} : t.kind = .word ∨ t.kind = .function →
    Parenthesized Argument ts arguments → Argument (t :: ts) (.call t.text arguments)

/-- Induction on arguments: what holds of the arguments of a call may be used for the call. -/
@[elab_as_elim]
theorem Argument.induct {motive : ∀ ts n, Argument ts n → Prop}
    (field : ∀ {t : Token} (h : t.kind = .word), motive _ _ (.field h))
    (number : ∀ {t : Token} (h : t.kind = .number), motive _ _ (.number h))
    (text : ∀ {t : Token} (h : t.kind = .text), motive _ _ (.text h))
    (negative : ∀ {m t : Token} (hm : m.kind = .minus) (h : t.kind = .number),
      motive _ _ (.negative hm h))
    (call : ∀ {t : Token} {ts arguments} (h : t.kind = .word ∨ t.kind = .function)
      (hargs : Parenthesized Argument ts arguments),
      Parenthesized (fun ts n => ∃ h, motive ts n h) ts arguments → motive _ _ (.call h hargs))
    {ts : List Token} {n : Node} (h : Argument ts n) : motive ts n h :=
  @Argument.rec motive
    (fun ts ns _ => Parenthesized (fun ts n => ∃ h, motive ts n h) ts ns)
    (fun ts ns _ => Separated .comma (fun ts n => ∃ h, motive ts n h) ts ns)
    field number text negative (fun h hargs ih => call h hargs ih)
    .empty (fun ho _ hc ih => .filled ho ih hc)
    (fun h ih => .single ⟨h, ih⟩) (fun h ht _ ih ihs => .cons ⟨h, ih⟩ ht ihs) _ _ h

theorem Argument.opens : Opens Argument := by
  intro ts n h
  cases h with
  | field h => exact ⟨_, _, rfl, by simp [h]⟩
  | number h => exact ⟨_, _, rfl, by simp [h]⟩
  | text h => exact ⟨_, _, rfl, by simp [h]⟩
  | negative h => exact ⟨_, _, rfl, by simp [h]⟩
  | call h => exact ⟨_, _, rfl, by rcases h with h | h <;> simp [h]⟩

/-- What a column holds. -/
inductive ColumnSource : Phrase Column where
  /-- A field under its own name. -/
  | field {t} : t.kind = .word → ColumnSource [t] (.ofField t.text)
  /-- The call of a function, under the name that it is written as. -/
  | call {t ts arguments} : t.kind = .function → Parenthesized Argument ts arguments →
    ColumnSource (t :: ts) ⟨(Node.call t.text arguments).render, some (.call t.text arguments)⟩

/-- What a column holds could be an argument as well. -/
theorem ColumnSource.argument {ts : List Token} {c : Column} (h : ColumnSource ts c) :
    Argument ts c.source := by
  cases h with
  | field hk => exact .field hk
  | call hk hargs => exact .call (.inr hk) hargs

/-- A column under the alias, if there is one. -/
def aliasColumn (column : Column) : Option String → Column
  | none => column
  | some name => ⟨name, some column.source⟩

/-- A column with an optional alias. -/
inductive ResultColumn : Phrase Column where
  /-- What it holds, and its alias. -/
  | intro {ts column us aliased} : ColumnSource ts column → Optionally .asWord Word us aliased →
    ResultColumn (ts ++ us) (aliasColumn column aliased)

/-- The arguments of a source, which may be missing. -/
inductive SourceArguments : Phrase (List Node) where
  /-- There are none. -/
  | absent : SourceArguments [] []
  /-- They are in parentheses. -/
  | present {ts arguments} : Parenthesized Argument ts arguments → SourceArguments ts arguments

/-- A source with optional arguments and an optional alias. -/
inductive RowSource : Phrase Source where
  /-- Its name, its arguments and its alias. -/
  | intro {t ts arguments us aliased} : t.kind = .word ∨ t.kind = .function →
    SourceArguments ts arguments → Optionally .asWord Word us aliased →
    RowSource (t :: ts ++ us) ⟨t.text, arguments, aliased⟩

/-- What a field is compared with. -/
inductive Operand : Phrase String where
  /-- A name, a number or a text. -/
  | plain {t} : t.kind = .word ∨ t.kind = .number ∨ t.kind = .text → Operand [t] t.text
  /-- A number with a sign. -/
  | negative {m t} : m.kind = .minus → t.kind = .number → Operand [m, t] ("-" ++ t.text)

end Phrase

/-- A comparison of a field, as it is written. -/
structure Predicate where
  /-- The field. -/
  field : String
  /-- The comparison. -/
  operator : Operator
  /-- What the field is compared with. -/
  operand : String

/-- What a statement of the stock dialect says. -/
structure Selection where
  /-- The columns. -/
  columns : List Column
  /-- Where the rows come from. -/
  source : Source
  /-- The predicates, if there are any. -/
  predicates : Option (List Predicate)
  /-- The limit, if there is one. -/
  limit : Option Nat

namespace Phrase

/-- A comparison of a field. -/
inductive Comparing : Phrase Predicate where
  /-- The field, the comparison and what stands behind it. -/
  | intro {f o operator ts operand} : f.kind = .word → ComparisonOperator o operator →
    Operand ts operand → Comparing (f :: o :: ts) ⟨f.text, operator, operand⟩

/-- A row count: one or more digits, for a number of 64 bits. -/
inductive RowCount : Phrase Nat where
  /-- The digits. -/
  | intro {t} : t.kind = .number → t.text.toList ≠ [] → t.text.toList.all Char.isDigit →
    Decimal.digitsValue 0 t.text.toList < 2 ^ 64 →
    RowCount [t] (Decimal.digitsValue 0 t.text.toList)

/-- A statement of the stock dialect. -/
inductive Selecting : Phrase Selection where
  /-- Its four clauses. -/
  | intro {select columns fromWord source wheres limits q} : select.kind = .selectWord →
    Separated .comma ResultColumn columns q.columns → fromWord.kind = .fromWord →
    RowSource source q.source →
    Optionally .whereWord (Separated .andWord Comparing) wheres q.predicates →
    Optionally .limitWord RowCount limits q.limit →
    Selecting (select :: columns ++ fromWord :: source ++ wheres ++ limits) q

/-! ### No phrase goes beyond the end of a statement -/

variable {ts : List Token}

theorem isEnd_eq_false_of_kind {t : Token} {kind : Kind} (h : t.kind = kind)
    (hkind : kind ∉ [Kind.endOfStatement, .endOfInput]) : t.isEnd = false := by
  simp only [List.mem_cons, List.not_mem_nil, or_false, not_or] at hkind
  simp [Token.isEnd, h, hkind]

theorem Parenthesized.isEnd_eq_false {α : Type} {D : Phrase α} {as : List α}
    (h : Parenthesized D ts as) (hD : ∀ ts a, D ts a → ∀ t ∈ ts, t.isEnd = false) :
    ∀ t ∈ ts, t.isEnd = false := by
  refine h.forall_mem (fun t ht => ?_) hD
  simp only [List.mem_cons, List.not_mem_nil, or_false] at ht
  rcases ht with ht | ht | ht <;> exact isEnd_eq_false_of_kind ht (by decide)

theorem Argument.isEnd_eq_false {n : Node} (h : Argument ts n) : ∀ t ∈ ts, t.isEnd = false := by
  induction h using Argument.induct with
  | field h => simp [isEnd_eq_false_of_kind h]
  | number h => simp [isEnd_eq_false_of_kind h]
  | text h => simp [isEnd_eq_false_of_kind h]
  | negative hm h => simp [isEnd_eq_false_of_kind hm, isEnd_eq_false_of_kind h]
  | @call t ts arguments h _ ih =>
    refine List.forall_mem_cons.2 ⟨?_, ih.isEnd_eq_false fun _ _ h => h.2⟩
    rcases h with h | h <;> exact isEnd_eq_false_of_kind h (by decide)

theorem arguments_isEnd_eq_false {ns : List Node} (h : Parenthesized Argument ts ns) :
    ∀ t ∈ ts, t.isEnd = false := h.isEnd_eq_false fun _ _ h => h.isEnd_eq_false

theorem alias_isEnd_eq_false {aliased : Option String} (h : Optionally .asWord Word ts aliased) :
    ∀ t ∈ ts, t.isEnd = false :=
  h.forall_mem (fun _ ht => isEnd_eq_false_of_kind ht (by decide)) fun _ _ hw => by
    cases hw with
    | intro h => simp [isEnd_eq_false_of_kind h]

theorem ResultColumn.isEnd_eq_false {c : Column} (h : ResultColumn ts c) :
    ∀ t ∈ ts, t.isEnd = false := by
  obtain ⟨hsource, halias⟩ := h
  refine List.forall_mem_append.2 ⟨?_, alias_isEnd_eq_false halias⟩
  cases hsource with
  | field h => simp [isEnd_eq_false_of_kind h]
  | call h hargs =>
    exact List.forall_mem_cons.2
      ⟨isEnd_eq_false_of_kind h (by decide), arguments_isEnd_eq_false hargs⟩

theorem RowSource.isEnd_eq_false {source : Source} (h : RowSource ts source) :
    ∀ t ∈ ts, t.isEnd = false := by
  obtain ⟨hname, hargs, halias⟩ := h
  refine List.forall_mem_append.2
    ⟨List.forall_mem_cons.2 ⟨?_, ?_⟩, alias_isEnd_eq_false halias⟩
  · rcases hname with h | h <;> exact isEnd_eq_false_of_kind h (by decide)
  · cases hargs with
    | absent => simp
    | present hargs => exact arguments_isEnd_eq_false hargs

theorem Comparing.isEnd_eq_false {p : Predicate} (h : Comparing ts p) :
    ∀ t ∈ ts, t.isEnd = false := by
  obtain @⟨f, o, operator, ts, operand, hf, ho, hoperand⟩ := h
  have ho : o.isEnd = false := by cases ho <;> simp [Token.isEnd, *]
  refine List.forall_mem_cons.2 ⟨isEnd_eq_false_of_kind hf (by decide),
    List.forall_mem_cons.2 ⟨ho, ?_⟩⟩
  cases hoperand with
  | plain h => rcases h with h | h | h <;> simp [isEnd_eq_false_of_kind h]
  | negative hm h => simp [isEnd_eq_false_of_kind hm, isEnd_eq_false_of_kind h]

theorem RowCount.isEnd_eq_false {n : Nat} (h : RowCount ts n) : ∀ t ∈ ts, t.isEnd = false := by
  obtain ⟨h, -, -, -⟩ := h
  simp [isEnd_eq_false_of_kind h]

theorem Selecting.isEnd_eq_false {q : Selection} (h : Selecting ts q) :
    ∀ t ∈ ts, t.isEnd = false := by
  obtain ⟨hselect, hcolumns, hfrom, hsource, hwheres, hlimits⟩ := h
  have hc := hcolumns.forall_mem (fun _ ht => isEnd_eq_false_of_kind ht (by decide))
    fun _ _ h => h.isEnd_eq_false
  have hw := hwheres.forall_mem (fun _ ht => isEnd_eq_false_of_kind ht (by decide)) fun _ _ h =>
    h.forall_mem (fun _ ht => isEnd_eq_false_of_kind ht (by decide)) fun _ _ h => h.isEnd_eq_false
  have hl := hlimits.forall_mem (fun _ ht => isEnd_eq_false_of_kind ht (by decide))
    fun _ _ h => h.isEnd_eq_false
  simp only [List.forall_mem_append, List.forall_mem_cons]
  exact ⟨⟨⟨⟨isEnd_eq_false_of_kind hselect (by decide), hc⟩,
    isEnd_eq_false_of_kind hfrom (by decide), hsource.isEnd_eq_false⟩, hw⟩, hl⟩

end Phrase

namespace Selection

/-- The last predicate that is written on a field. -/
def last? (q : Selection) (field : String) : Option Predicate :=
  ((q.predicates.getD []).filter fun p => p.field = field).getLast?

/-- The request that a selection with the given comments stands for. -/
structure Denotes (q : Selection) (comments : List String) (r : Request) : Prop where
  /-- It is a selection. -/
  kind : r.kind = .select
  /-- The columns come in order. -/
  columns : r.columns = q.columns
  /-- The rows come from the source. -/
  source : r.source = some q.source
  /-- A field has the operand of the last predicate on it. -/
  predicates : ∀ field, r.predicates.get? field = (q.last? field).map (·.operand)
  /-- A field has the comparison of the last predicate on it. -/
  operators : ∀ field, r.operators.get? field = (q.last? field).map (·.operator)
  /-- The limit is the one that is written. -/
  limit : r.limit = q.limit
  /-- The comments are kept. -/
  comments : r.comments = comments

end Selection

end RowSieve

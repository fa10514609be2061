import RowSieve.Proofs.Request.Legible
import RowSieve.Proofs.Request.Scripts

/-!
# Columns that are read

Whatever a variant of the stock dialect reads into a column, in a single statement or anywhere in a
script, was written with legible tokens (`Switches.exists_columnSource_of_produces`).

A later statement of a script begins in what is left of the source (`Script.exists_behind_of_mem`),
so what holds of all tokens of the source still holds there.
-/

namespace RowSieve

open TokenStream Phrase

variable {σ : Type} {d : Dialect σ} {s s' : TokenStream} {tokens : List Token} {r : Request}
  {n : Node}

namespace TokenStream

section Statements

variable (hd : d.statements = (sql : Declarations σ).statements)
include hd

/-- The columns of a statement are made up of tokens that were left. -/
theorem exists_columns_of_readStatement (hs : s.Fit) (h : readStatement d s = .ok r s') :
    ∃ ts, Separated .comma ResultColumn ts r.columns ∧ ts.Sublist s.rest := by
  obtain ⟨ts, s₁, q, hreads, hq, rfl, -⟩ := exists_selecting_of_readStatement hd hs h
  have hsublist := hs.sublist_of_reads hreads hq.isEnd_eq_false
  obtain @⟨select, cts, t, sts, wts, lts, _, -, hcolumns, -, -, -, -⟩ := hq
  refine ⟨cts, by rwa [Selection.columns_requestBy], .trans ?_ hsublist⟩
  simp only [List.cons_append, List.append_assoc]
  exact (List.sublist_append_left ..).cons _

end Statements

end TokenStream

/-! ### Sources -/

/-- Reading a source in the dialect, as a statement or as a script, makes a column that holds the
expression. -/
def Dialect.Produces [Strategies σ] (d : Dialect σ) (n : Node) : Prop :=
  ∃ source r, (parse d source = .ok r ∨ ∃ rs, parseScript d source = .ok rs ∧ r ∈ rs) ∧
    ∃ c ∈ r.columns, c.source = n

/-- What a column holds. -/
theorem Phrase.ResultColumn.exists_columnSource {ts : List Token} {c : Column}
    (h : ResultColumn ts c) :
    ∃ us column, ColumnSource us column ∧ column.source = c.source ∧ ∀ t ∈ us, t ∈ ts := by
  obtain @⟨ts, column, us, o, hcolumn, -⟩ := h
  exact ⟨ts, column, hcolumn, by cases o <;> rfl, fun t ht => List.mem_append_left _ ht⟩

section Switches

variable (switches : Switches) {source : String}

/-- No keyword stands for a name or a number. -/
theorem Switches.kind_not_mem_of_keyword? {w : String} {kind : Kind}
    (h : switches.declarations.dialect.keyword? w = some kind) :
    kind ∉ [Kind.word, .function, .number] :=
  kind_not_mem_of_keyword?_sql (σ := Empty) h

theorem Switches.fit_stream (h : switches.declarations.dialect.tokenize source = .ok tokens)
    (finish : Nat) : (ofTokensUpTo tokens finish).Fit :=
  Dialect.fit_stream switches.strategy_eq_list
    (fun _ hw => switches.kind_not_mem_of_keyword? hw (by decide))
    (fun _ hw => switches.kind_not_mem_of_keyword? hw (by decide)) h finish

/-- A token that is legible in a variant is legible in the stock dialect. -/
theorem Switches.legible_of_tokenize
    (h : switches.declarations.dialect.tokenize source = .ok tokens) :
    ∀ t ∈ tokens, t.Legible (sql : Declarations Empty).dialect := by
  obtain ⟨raw, hrel⟩ := Dialect.exists_relabelling switches.strategy_eq_list h
  intro t ht
  obtain ⟨hword, hfunction, hnumber⟩ :=
    hrel.legible (fun _ _ => switches.kind_not_mem_of_keyword?) t ht
  exact ⟨hword, hfunction, hnumber⟩

/-- A column is read where a statement begins in what is left of the source. -/
theorem Switches.exists_readStatement_of_produces (h : switches.declarations.dialect.Produces n) :
    ∃ source tokens s s' r, switches.declarations.dialect.tokenize source = .ok tokens ∧
      s.Behind (ofTokensUpTo tokens source.utf8ByteSize) ∧
      readStatement switches.declarations.dialect s = .ok r s' ∧ ∃ c ∈ r.columns, c.source = n := by
  obtain ⟨source, r, hread | ⟨rs, hread, hr⟩, hc⟩ := h
  · obtain ⟨tokens, s', htokens, hr⟩ := exists_readStatement_of_parse hread
    exact ⟨source, tokens, _, s', r, htokens, behind_refl _, hr, hc⟩
  · obtain ⟨tokens, htokens, s', hrs⟩ := parseScript_eq_ok_iff.1 hread
    obtain ⟨s₁, s₂, hs₁, hr⟩ := (script_of_statementsWithin rfl hrs).exists_behind_of_mem rfl r hr
    exact ⟨source, tokens, s₁, s₂, r, htokens, hs₁, hr, hc⟩

theorem Switches.exists_columnSource_of_produces
    (h : switches.declarations.dialect.Produces n) :
    ∃ ts column, ColumnSource ts column ∧ column.source = n ∧
      ∀ t ∈ ts, t.Legible (sql : Declarations Empty).dialect := by
  obtain ⟨source, tokens, s, s', r, htokens, hs, hr, c, hc, rfl⟩ :=
    switches.exists_readStatement_of_produces h
  obtain ⟨ts, hcolumns, hts⟩ :=
    exists_columns_of_readStatement rfl (hs.fit (switches.fit_stream htokens _)) hr
  obtain ⟨us, hus, hsub⟩ := hcolumns.exists_of_mem c hc
  obtain ⟨vs, column, hcolumn, hsource, hsub'⟩ := hus.exists_columnSource
  refine ⟨vs, column, hcolumn, hsource, fun t ht => switches.legible_of_tokenize htokens t ?_⟩
  exact (hs.rest.trans (List.dropWhile_suffix _)).subset (hts.subset (hsub t (hsub' t ht)))

end Switches

end RowSieve

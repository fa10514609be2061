import RowSieve.Proofs.Request.Acceptance
import RowSieve.Proofs.Token.Spelling

/-!
# Legible tokens

The tokens that the stock dialect makes of a source are `Token.Legible`: their texts are words and
numbers as they are spelled, and a word keeps its kind only if it is no keyword.  So are the names
and the numbers in a statement that is read (`exists_selecting_of_parse`).  The other way round,
tokens that make up a statement are read as its request (`parse_of_selecting`).
-/

namespace RowSieve

open TokenStream Phrase

variable {σ : Type}

theorem Cursor.isWord_of_next {c after : Cursor} {token : Token} (h : c.next = (.ok token, after))
    (hk : token.kind = .word) : IsWord token.text.toList := by
  obtain ⟨l, hl, hfound, rfl, -⟩ := found_of_next h (by rw [hk]; decide)
  obtain ⟨⟨d, ds, hcs, hd⟩, hread⟩ := hfound.word hk
  rw [hread, hcs] at hl
  cases hl
  simpa using isWord_splitWord hd

/-- The token can be written again. -/
structure Token.Legible (d : Dialect σ) (t : Token) : Prop where
  /-- A word is no keyword. -/
  word : t.kind = .word → IsWord t.text.toList ∧ d.keyword? t.text = none
  /-- A function may be one, but none that opens a clause. -/
  function : t.kind = .function →
    IsWord t.text.toList ∧ ∀ kind, d.keyword? t.text = some kind → d.opensClause kind = false
  /-- A number is spelled as numbers are. -/
  number : t.kind = .number → Decimal.Numeral t.text.toList

/-- The name of a call opens no clause. -/
theorem Token.Legible.name {d : Dialect σ} {t : Token} (h : t.Legible d)
    (hk : t.kind = .word ∨ t.kind = .function) :
    IsWord t.text.toList ∧
      ∀ kind, d.keyword? t.text = some kind → d.opensClause kind = false := by
  rcases hk with hk | hk
  · obtain ⟨hword, hnone⟩ := h.word hk
    exact ⟨hword, by simp [hnone]⟩
  · exact h.function hk

namespace Dialect

variable {d : Dialect σ} {c after : Cursor} {token : Token} {raw labelled : List Token}

/-- Where no keyword has the kind of a word, a function or a number, all tokens are legible. -/
theorem Classifies.legible
    (hd : ∀ w kind, d.keyword? w = some kind → kind ∉ [Kind.word, .function, .number])
    (hnext : c.next = (.ok token, after)) {p : Prop} {kind : Kind}
    (h : d.Classifies token p kind) : Token.Legible d { token with kind := kind } := by
  cases h with
  | other hk =>
    exact ⟨fun hword => absurd hword hk,
      fun hfunction => absurd hfunction (Cursor.kind_ne_function_of_next hnext),
      fun hnumber => Cursor.numeral_of_next hnext hnumber⟩
  | keyword _ hw =>
    have hkind := hd _ _ (keyword?_eq_some_iff.2 hw)
    simp only [List.mem_cons, List.not_mem_nil, or_false, not_or] at hkind
    exact ⟨fun h => absurd h hkind.1, fun h => absurd h hkind.2.1, fun h => absurd h hkind.2.2⟩
  | function hk hopens =>
    have hword := Cursor.isWord_of_next hnext hk
    have hopens (kind : Kind) (hw : d.keyword? token.text = some kind) :
        d.opensClause kind = false := hopens kind (keyword?_eq_some_iff.1 hw)
    exact ⟨nofun, fun _ => ⟨hword, hopens⟩, nofun⟩
  | word hk hw =>
    have hword := Cursor.isWord_of_next hnext hk
    exact ⟨fun _ => ⟨hword, keyword?_eq_none_iff.2 hw⟩, nofun, nofun⟩

theorem Relabelling.legible
    (hd : ∀ w kind, d.keyword? w = some kind → kind ∉ [Kind.word, .function, .number])
    (h : d.Relabelling c raw labelled) : ∀ t ∈ labelled, t.Legible d := by
  induction h with
  | finish hnext hk =>
    refine List.forall_mem_singleton.2 ⟨fun h => ?_, fun h => ?_, fun h => ?_⟩
    · simp [hk] at h
    · simp [hk] at h
    · simp [hk] at h
  | token hnext _ hclass _ ih => exact List.forall_mem_cons.2 ⟨hclass.legible hd hnext, ih⟩

end Dialect

/-- No keyword of the stock dialect stands for a name or a number. -/
theorem kind_not_mem_of_keyword?_sql {w : String} {kind : Kind}
    (h : (sql : Declarations σ).dialect.keyword? w = some kind) :
    kind ∉ [Kind.word, .function, .number] := by
  have hshared : ∀ kind ∈ Kind.sharedKeywords.map (·.2),
      kind ∉ [Kind.word, .function, .number] := by decide
  exact hshared kind (mem_of_keyword?_sql h)

theorem legible_of_tokenize_sql [Strategies σ] {source : String} {tokens : List Token}
    (h : (sql : Declarations σ).dialect.tokenize source = .ok tokens) :
    ∀ t ∈ tokens, t.Legible (sql : Declarations σ).dialect := by
  obtain ⟨raw, hrel⟩ := Dialect.exists_relabelling (by simp [Declarations.dialect, sql]) h
  exact hrel.legible fun _ _ => kind_not_mem_of_keyword?_sql

/-! ### Statements and their tokens -/

/-- Tokens without comments in front of an end are a statement. -/
theorem TokenStream.statementTokens_append {ts : List Token} {e : Token}
    (hts : ∀ t ∈ ts, t.isEnd = false) (hcomments : ∀ t ∈ ts, isComment t = false)
    (he : e.isEnd = true) :
    statementTokens (ts ++ [e]) = ts ∧ statementComments (ts ++ [e]) = [] := by
  have htake : (ts ++ [e]).takeWhile (fun t => !t.isEnd) = ts := by
    rw [List.takeWhile_append_of_pos (by simpa using hts),
      List.takeWhile_cons_of_neg (by simp [he]), List.append_nil]
  constructor
  · rw [statementTokens, htake, List.filter_eq_self]
    simpa using hcomments
  · rw [statementComments, htake, List.filter_eq_nil_iff.2 (by simpa using hcomments)]
    rfl

/-- What is read was left, in the same order. -/
theorem TokenStream.Fit.sublist_of_reads {s s' : TokenStream} {ts : List Token} (hs : s.Fit)
    (h : s.Reads ts s') (hts : ∀ t ∈ ts, t.isEnd = false) : ts.Sublist s.rest := by
  induction ts generalizing s with
  | nil => exact List.nil_sublist _
  | cons t ts ih =>
    obtain ⟨rfl, h⟩ := h
    have hend := hts _ (.head _)
    obtain ⟨us, hus⟩ := List.head?_eq_some_iff.1
      (hs.head?_eq fun hk => by simp [Token.isEnd, hk] at hend)
    have htail : s.tail.rest.Sublist us := by
      rw [rest_tail, hus]
      exact (List.dropWhile_suffix _).sublist
    rw [hus]
    exact ((ih hs.tail h fun t ht => hts t (.tail _ ht)).trans htail).cons_cons _

section Statements

variable [Strategies σ] {source : String} {r : Request} {tokens : List Token} {q : Selection}

theorem parse_of_tokenize {d : Dialect σ} (h : d.tokenize source = .ok tokens) :
    parse d source = (oneStatement d).eval (ofTokensUpTo tokens source.utf8ByteSize) := by
  simp only [parse, Dialect.stream, h, Except.map, Except.bind]

theorem exists_readStatement_of_parse {d : Dialect σ}
    (h : parse d source = .ok r) : ∃ tokens s', d.tokenize source = .ok tokens ∧
      readStatement d (ofTokensUpTo tokens source.utf8ByteSize) = .ok r s' := by
  cases htokens : d.tokenize source with
  | error e => simp [parse, Dialect.stream, htokens, Except.map, Except.bind] at h
  | ok tokens =>
    rw [parse_of_tokenize htokens, eval_eq_ok] at h
    obtain ⟨s', h⟩ := h
    obtain ⟨r', s₁, hr, h⟩ := bind_eq_ok.1 h
    obtain ⟨_, s₂, -, h⟩ := bind_eq_ok.1 h
    obtain ⟨rfl, rfl⟩ := pure_eq_ok.1 h
    exact ⟨tokens, s₁, rfl, hr⟩

theorem exists_selecting_of_parse (h : parse (sql : Declarations σ).dialect source = .ok r) :
    ∃ ts q comments, Selecting ts q ∧ q.request comments = r ∧
      ∀ t ∈ ts, t.Legible (sql : Declarations σ).dialect := by
  obtain ⟨tokens, s', htokens, hr⟩ := exists_readStatement_of_parse h
  have hs := fit_stream_sql htokens source.utf8ByteSize
  obtain ⟨ts, s₁, q, hts, hq, hrequest, -⟩ := readStatement_sound hs hr
  refine ⟨ts, q, _, hq, hrequest, fun t ht => legible_of_tokenize_sql htokens t ?_⟩
  have hsuffix : (ofTokensUpTo tokens source.utf8ByteSize).rest <:+ tokens :=
    List.dropWhile_suffix _
  exact hsuffix.subset ((hs.sublist_of_reads hts hq.isEnd_eq_false).subset ht)

theorem parse_of_selecting (h : (sql : Declarations σ).dialect.tokenize source = .ok tokens)
    (hq : Selecting (statementTokens tokens) q) :
    parse (sql : Declarations σ).dialect source = .ok (q.request (statementComments tokens)) := by
  have hs := fit_stream_sql h source.utf8ByteSize
  obtain ⟨s₁, hreads, hend, hcomments⟩ : ∃ s', (ofTokensUpTo tokens source.utf8ByteSize).Reads
      (statementTokens tokens) s' ∧ s'.current.isEnd = true ∧
      s'.comments = statementComments tokens := by
    simpa [ofTokensUpTo] using
      exists_reads_settle (s := ⟨tokens, [], ⟨.endOfInput, "", source.utf8ByteSize⟩⟩) rfl
  have hread := readStatement_complete (σ := σ) hs hq hreads hend
  rw [hcomments] at hread
  obtain ⟨s₂, hfinish⟩ := (exists_finishStatement_iff (d := (sql : Declarations σ).dialect)
    (s := { s₁ with comments := [] }) rfl).2 hend
  rw [parse_of_tokenize h, eval_eq_ok]
  exact ⟨s₂, bind_eq_ok.2 ⟨_, _, hread, bind_eq_ok.2 ⟨_, _, hfinish, rfl⟩⟩⟩

end Statements

end RowSieve

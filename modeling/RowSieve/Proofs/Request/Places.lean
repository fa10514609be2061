import RowSieve.Proofs.Expr.Falls
import RowSieve.Proofs.Expr.Reports
import RowSieve.Proofs.Request.Scripts
import RowSieve.Proofs.Token.Covering

/-!
# Errors point into the source

The position that an error gives is a place of the source: a character begins there, or the source
ends (`IsPlace`).  A fault stands where a token should begin.  All other errors speak of a token,
one of those that the source is split into or the end of the input.  That the tokens of a stream
stand at places is an invariant of every reader (`Likeness.along`), and so it holds of the token at
which a reader fails.
-/

namespace RowSieve

open TokenStream

variable {σ : Type} {d : Dialect σ} {source : String}

/-- A character of the source begins at the byte, or the source ends there. -/
structure IsPlace (source : String) (position : Nat) : Prop where
  /-- The byte is in the source, or right behind it. -/
  le : position ≤ source.utf8ByteSize
  /-- The byte is not inside a character. -/
  valid : String.Pos.Raw.IsValid source ⟨position⟩

theorem isPlace_of_isValid {position : Nat} (h : String.Pos.Raw.IsValid source ⟨position⟩) :
    IsPlace source position :=
  ⟨h.le_rawEndPos, h⟩

theorem isPlace_finish (source : String) : IsPlace source source.utf8ByteSize :=
  isPlace_of_isValid String.Pos.Raw.isValid_rawEndPos

/-! ### Places of tokens -/

theorem isPlace_of_reaches {c : Cursor} (h : (Cursor.start source).Reaches c) :
    IsPlace source c.position := by
  obtain ⟨taken, htaken, hposition⟩ := h
  rw [hposition, Cursor.start, Nat.zero_add]
  exact isPlace_of_isValid (isValid_byteLength htaken.symm)

theorem isPlace_of_scan_error {e : SourceError} (h : scan source = .error e) :
    IsPlace source e.position := by
  obtain ⟨fault, place, hreaches, rfl⟩ := Cursor.exists_fault_of_tokens h
  cases fault <;> exact isPlace_of_reaches hreaches

theorem isPlace_of_mem_scan {tokens : List Token} (h : scan source = .ok tokens) :
    ∀ t ∈ tokens, IsPlace source t.position :=
  fun t ht => isPlace_of_isValid ((scan_covers h).2.1 t ht)

/-- A dialect leaves tokens where they are. -/
theorem Dialect.isPlace_of_relabels {raw labelled : List Token}
    (h : List.Forall₂ (d.Relabels source) raw labelled)
    (hraw : ∀ t ∈ raw, IsPlace source t.position) : ∀ t ∈ labelled, IsPlace source t.position := by
  induction h with
  | nil => exact hraw
  | cons ht _ ih =>
    obtain ⟨hplace, hraw⟩ := List.forall_mem_cons.1 hraw
    exact List.forall_mem_cons.2 ⟨ht.position ▸ hplace, ih hraw⟩

theorem Dialect.isPlace_of_tokenize_error [Strategies σ]
    (hlist : ∀ st ∈ d.statements, ∀ c ∈ st.clauses, c.strategy = .list) {e : SourceError}
    (h : d.tokenize source = .error e) : IsPlace source e.position :=
  isPlace_of_scan_error (((tokenize_relabels d hlist source).1 e).1 h)

theorem Dialect.isPlace_of_mem_tokenize [Strategies σ]
    (hlist : ∀ st ∈ d.statements, ∀ c ∈ st.clauses, c.strategy = .list) {tokens : List Token}
    (h : d.tokenize source = .ok tokens) : ∀ t ∈ tokens, IsPlace source t.position := by
  obtain ⟨hfails, -, hrelabels⟩ := tokenize_relabels d hlist source
  cases hscan : scan source with
  | error e => simp [(hfails e).2 hscan] at h
  | ok raw => exact isPlace_of_relabels (hrelabels raw tokens hscan h) (isPlace_of_mem_scan hscan)

/-! ### Tokens that errors speak of -/

/-- The position of an error is that of the token which it speaks of. -/
theorem SourceError.Alike.exists_position {R : Token → Token → Prop} {e e' : SourceError}
    (h : e.Alike R e') : ∃ x y, R x y ∧ e.position = x.position := by
  cases h with
  | noStatement h => exact ⟨_, _, h, rfl⟩
  | noClause _ h => exact ⟨_, _, h, rfl⟩
  | unexpected _ h => exact ⟨_, _, h, rfl⟩
  | unsupported _ h => exact ⟨_, _, h, rfl⟩
  | trailing h => exact ⟨_, _, h, rfl⟩

/-- All tokens of a stream are of a sort, and it ends with the end of the input. -/
structure TokenStream.Along (P : Token → Prop) (s : TokenStream) : Prop where
  /-- After the last token, the end of the input is shown. -/
  kind : s.last.kind = .endOfInput
  /-- The end is of the sort. -/
  last : P s.last
  /-- So are the tokens that are left. -/
  rest : ∀ t ∈ s.rest, P t

theorem TokenStream.Along.tail {P : Token → Prop} {s : TokenStream} (h : s.Along P) :
    s.tail.Along P :=
  ⟨h.kind, h.last, fun t ht => h.rest t (s.rest_tail_suffix.subset ht)⟩

theorem TokenStream.Along.current {P : Token → Prop} {s : TokenStream} (h : s.Along P) :
    P s.current := by
  unfold TokenStream.current
  cases hrest : s.rest with
  | nil => exact h.last
  | cons t ts => exact h.rest t (by simp [hrest])

/-- A stream is like itself as long as its tokens are of a sort, and so are those that readers
see. -/
def Likeness.along (P : Token → Prop) : Likeness :=
  { Likeness.ofInvariant (fun s => s.Along P) (fun _ hs => hs.kind) (fun _ hs => hs.tail) with
    token := fun x y => x = y ∧ P x
    current := fun h => ⟨congrArg TokenStream.current h.1, h.2.current⟩
    same := fun h => .inl (h.1 ▸ ⟨rfl, rfl⟩) }

theorem Likeness.Outcome.exists_position {P : Token → Prop} {α : Type} {R : α → α → Prop}
    {p : Parse α} {s : TokenStream} (h : (Likeness.along P).Outcome R s (p s) (p s))
    {e : SourceError} (he : p.eval s = .error e) : ∃ t, P t ∧ e.position = t.position := by
  cases hp : p s with
  | ok a t => simp [Parse.eval, hp] at he
  | error e' t =>
    have heq : e' = e := by simpa [Parse.eval, hp] using he
    obtain ⟨_, _, _, halike⟩ := h.exists_of_error hp
    obtain ⟨x, _, hx, hposition⟩ := halike.exists_position
    exact ⟨x, hx.2, heq ▸ hposition⟩

/-- Where a stream is read that has only tokens of a sort, an error speaks of one of that sort. -/
theorem Likeness.outcome_oneStatement {P : Token → Prop} {s : TokenStream} (hs : s.Along P) :
    (Likeness.along P).Outcome (fun _ _ => True) s (oneStatement d s) (oneStatement d s) := by
  have hread := agree_readStatement (L := .along P) (d := d) (n := s.rest.length)
    (fun _ h => absurd h List.not_mem_nil) (fun _ _ _ _ => List.not_mem_nil)
    fun u u' hu => ⟨by rw [hu.1], ⟨hu.2.kind, hu.2.last, hu.2.rest⟩⟩
  refine (hread.bind fun r r' _ => ?_).outcome ⟨rfl, hs⟩ (Nat.le_refl _)
  exact (agree_finishStatement List.not_mem_nil).bind fun _ _ _ => agree_pure trivial

theorem Likeness.outcome_allStatements {P : Token → Prop} {s : TokenStream} (hs : s.Along P) :
    (Likeness.along P).Outcome (List.Forall₂ Request.SameUpToComments) s (allStatements d s)
      (allStatements d s) :=
  outcome_statementsWithin (L := .along P) rfl
    (fun u u' hu => ⟨by rw [hu.1], ⟨hu.2.kind, hu.2.last, hu.2.rest⟩⟩) ⟨rfl, hs⟩
    (Nat.lt_succ_self _) (Nat.lt_succ_self _)

/-! ### Errors -/

/-- What is read from the tokens of a source fails at a place of the source. -/
theorem Dialect.isPlace_of_stream [Strategies σ]
    (hlist : ∀ st ∈ d.statements, ∀ c ∈ st.clauses, c.strategy = .list) {α : Type} {p : Parse α}
    {R : α → α → Prop} (hp : ∀ P s, s.Along P → (Likeness.along P).Outcome R s (p s) (p s))
    {e : SourceError} (h : (d.stream source).bind p.eval = .error e) :
    IsPlace source e.position := by
  cases htokens : d.tokenize source with
  | error e' =>
    rw [Dialect.stream, htokens] at h
    cases h
    exact isPlace_of_tokenize_error hlist htokens
  | ok tokens =>
    rw [Dialect.stream, htokens] at h
    have hmem := isPlace_of_mem_tokenize hlist htokens
    have halong : (ofTokensUpTo tokens source.utf8ByteSize).Along
        fun t => IsPlace source t.position :=
      ⟨rfl, isPlace_finish source, fun t ht => hmem t ((List.dropWhile_suffix _).subset ht)⟩
    obtain ⟨t, ht, hposition⟩ := (hp _ _ halong).exists_position h
    exact hposition ▸ ht

/-- **Errors point into the source.**  In every variant of the stock dialect, the position of any
error in a request or in a script is a place of the source.  So are the positions that an error in a
program gives: that of a fault in the source and that of a token which should not stand there. -/
theorem Switches.isPlace_of_error (switches : Switches) {registry : Registry} {d : Dialect Empty}
    (hd : (switches.declarations.establish registry).1 = .ok d) (fs : Functions)
    (source : String) :
    (∀ e, parse d source = .error e → IsPlace source e.position) ∧
      (∀ e, parseScript d source = .error e → IsPlace source e.position) ∧
      (∀ e, compile fs source = .error (.source e) → IsPlace source e.position) ∧
      ∀ expected found, compile fs source = .error (.unexpected expected found) →
        IsPlace source found.position := by
  obtain rfl := Declarations.eq_dialect_of_establish hd
  refine ⟨fun e h => ?_, fun e h => ?_, fun e h => ?_, fun expected found h => ?_⟩
  · exact Dialect.isPlace_of_stream switches.strategy_eq_list
      (fun P s hs => Likeness.outcome_oneStatement hs) h
  · exact Dialect.isPlace_of_stream switches.strategy_eq_list
      (fun P s hs => Likeness.outcome_allStatements hs) h
  · cases hscan : scan source with
    | error e' =>
      simp only [compile, programTokens, hscan] at h
      cases h
      exact isPlace_of_scan_error hscan
    | ok tokens => cases speaksOf_of_compile hscan h
  · cases hscan : scan source with
    | error e' => simp [compile, programTokens, hscan] at h
    | ok tokens =>
      cases speaksOf_of_compile hscan h with
      | unexpected hmem => exact isPlace_of_mem_scan hscan _ hmem

/-- The mark behind a comment with two bytes for a character is no column and no instruction. -/
theorem Switches.isPlace_of_error_column :
    let d := (Switches.mk false false).declarations.dialect
    ((Switches.mk false false).declarations.establish .shared).1 = .ok d ∧
      parse d "/*é*/ select ?" = .error (.unexpected "a column" ⟨.question, "?", 14⟩) ∧
      compile .empty "/*é*/ select ?" = .error
        (.unexpected "';' or the end of the program" ⟨.question, "?", 14⟩) ∧
      "/*é*/ select ?".utf8ByteSize = 15 ∧ IsPlace "/*é*/ select ?" 14 := by
  have htokens : ((Switches.mk false false).declarations : Declarations Empty).dialect.tokenize
      "/*é*/ select ?" =
      .ok [⟨.comment, "é", 0⟩, ⟨.selectWord, "select", 7⟩, ⟨.question, "?", 14⟩,
        ⟨.endOfInput, "", 15⟩] :=
    Relay.run_of_afterSteps (n := 10) (by rfl)
  intro d
  have hd : ((Switches.mk false false).declarations.establish .shared).1 = .ok d := rfl
  have hparse : parse d "/*é*/ select ?" =
      .error (.unexpected "a column" ⟨.question, "?", 14⟩) := by
    rw [parse, Dialect.stream, htokens]
    rfl
  have hfails : (compile .empty "/*é*/ select ?").map (fun _ => ()) = .error
      (.unexpected "';' or the end of the program" ⟨.question, "?", 14⟩) := by decide +kernel
  obtain ⟨hplace, -⟩ := Switches.isPlace_of_error ⟨false, false⟩ hd .empty "/*é*/ select ?"
  exact ⟨hd, hparse, map_eq_error_iff.1 hfails, rfl, hplace _ hparse⟩

end RowSieve

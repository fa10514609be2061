import RowSieve.Proofs.Decimal.Spelling
import RowSieve.Token.Stream

/-!
# Reading a stream

What the basic readers of a `TokenStream` do, one statement for each, and `TokenStream.Reads`: the
tokens that are read between two states of a stream.  A reader is described by the tokens that it
reads, so that what it reads can be compared with a grammar.

Comments lie between these tokens.  `TokenStream.exists_reads_settle` finds both again in the tokens
that a stream was made from.
-/

namespace RowSieve

namespace TokenStream

variable {α β : Type} {s s' s'' : TokenStream} {t : Token} {ts us : List Token} {kind : Kind}

/-! ### Basic readers -/

theorem bind_eq_ok {p : Parse α} {f : α → Parse β} {b : β} :
    (p >>= f) s = .ok b s'' ↔ ∃ a s', p s = .ok a s' ∧ f a s' = .ok b s'' := by
  change EStateM.bind p f s = _ ↔ _
  unfold EStateM.bind
  cases p s <;> simp [and_assoc]

theorem bind_of_ok {p : Parse α} {a : α} (h : p s = .ok a s') (f : α → Parse β) :
    (p >>= f) s = f a s' := by
  change EStateM.bind p f s = _
  simp only [EStateM.bind, h]

@[simp] theorem pure_eq_ok {a b : α} : (pure a : Parse α) s = .ok b s' ↔ a = b ∧ s = s' := by
  change EStateM.Result.ok a s = _ ↔ _
  simp

@[simp] theorem throw_ne_ok {e : SourceError} {a : α} : (throw e : Parse α) s ≠ .ok a s' := nofun

@[simp] theorem fail_ne_ok {expected : String} {a : α} :
    (fail expected : Parse α) s ≠ .ok a s' := nofun

@[simp] theorem bind_peek (f : Token → Parse β) : (peek >>= f) s = f s.current s := rfl

@[simp] theorem bind_advance (f : Token → Parse β) : (advance >>= f) s = f s.current s.tail := rfl

@[simp] theorem bind_check (f : Bool → Parse β) :
    (check kind >>= f) s = f (s.current.kind = kind) s := rfl

@[simp] theorem bind_remaining (f : Nat → Parse β) : (remaining >>= f) s = f s.rest.length s := rfl

theorem bind_eat_of_kind (h : s.current.kind = kind) (f : Option Token → Parse β) :
    (eat kind >>= f) s = f (some s.current) s.tail := by
  have heat : eat kind s = .ok (some s.current) s.tail := by
    rw [eat, bind_check, if_pos (decide_eq_true h), bind_advance]
    rfl
  exact bind_of_ok heat f

theorem bind_eat_of_kind_ne (h : s.current.kind ≠ kind) (f : Option Token → Parse β) :
    (eat kind >>= f) s = f none s := by
  have heat : eat kind s = .ok none s := by
    rw [eat, bind_check, if_neg (by simpa using h)]
    rfl
  exact bind_of_ok heat f

theorem bind_expect_eq_ok {expected : String} {f : Token → Parse β} {b : β} :
    (expect kind expected >>= f) s = .ok b s' ↔
      s.current.kind = kind ∧ f s.current s.tail = .ok b s' := by
  by_cases h : s.current.kind = kind
  · have hexpect : expect kind expected s = .ok s.current s.tail := by
      rw [expect, bind_eat_of_kind h]
      rfl
    simp only [bind_of_ok hexpect, h, true_and]
  · refine iff_of_false (fun hb => ?_) fun hb => h hb.1
    obtain ⟨t, s'', ht, -⟩ := bind_eq_ok.1 hb
    rw [expect, bind_eat_of_kind_ne h] at ht
    exact fail_ne_ok ht

/-! ### The tokens between two states -/

/-- Reading the tokens, and nothing else, leads from one state to the other. -/
def Reads : TokenStream → List Token → TokenStream → Prop
  | s, [], s' => s = s'
  | s, t :: ts, s' => s.current = t ∧ Reads s.tail ts s'

@[simp] theorem reads_nil : s.Reads [] s' ↔ s = s' := .rfl

@[simp] theorem reads_cons : s.Reads (t :: ts) s' ↔ s.current = t ∧ s.tail.Reads ts s' := .rfl

theorem reads_append : s.Reads (ts ++ us) s'' ↔ ∃ s', s.Reads ts s' ∧ s'.Reads us s'' := by
  induction ts generalizing s with
  | nil => simp
  | cons t ts ih => simp [ih, and_assoc]

theorem Reads.append (h : s.Reads ts s') (h' : s'.Reads us s'') : s.Reads (ts ++ us) s'' :=
  reads_append.2 ⟨s', h, h'⟩

/-- Reading on up to an end token is possible in one way only. -/
theorem Reads.eq_of_isEnd (h : s.Reads ts s') (h' : s.Reads us s'')
    (hts : ∀ t ∈ ts, t.isEnd = false) (hus : ∀ t ∈ us, t.isEnd = false)
    (hend : s'.current.isEnd = true) (hend' : s''.current.isEnd = true) : ts = us ∧ s' = s'' := by
  induction ts generalizing s us with
  | nil =>
    cases h
    cases us with
    | nil => exact ⟨rfl, h'⟩
    | cons u us =>
      obtain ⟨rfl, -⟩ := h'
      rw [hus _ (.head _)] at hend
      cases hend
  | cons t ts ih =>
    obtain ⟨rfl, h⟩ := h
    cases us with
    | nil =>
      cases h'
      rw [hts _ (.head _)] at hend'
      cases hend'
    | cons u us =>
      obtain ⟨rfl, h'⟩ := h'
      obtain ⟨rfl, rfl⟩ := ih h h' (fun t ht => hts t (.tail _ ht)) fun t ht => hus t (.tail _ ht)
      exact ⟨rfl, rfl⟩

/-! ### Tokens and comments of a statement -/

@[simp] theorem rest_settle : s.settle.rest = s.rest.dropWhile isComment := rfl

@[simp] theorem last_settle : s.settle.last = s.last := rfl

@[simp] theorem last_tail : s.tail.last = s.last := rfl

@[simp] theorem rest_tail : s.tail.rest = s.rest.tail.dropWhile isComment := rfl

theorem isEnd_eq_false_of_isComment (h : isComment t = true) : t.isEnd = false := by
  simp only [isComment, decide_eq_true_eq] at h
  simp [Token.isEnd, h]

/-- The tokens of the first statement, without the comments. -/
def statementTokens (tokens : List Token) : List Token :=
  (tokens.takeWhile fun t => !t.isEnd).filter fun t => !isComment t

/-- The texts of the comments in the first statement. -/
def statementComments (tokens : List Token) : List String :=
  ((tokens.takeWhile fun t => !t.isEnd).filter isComment).map (·.text)

theorem isEnd_eq_false_of_mem_statementTokens {tokens : List Token} :
    ∀ t ∈ statementTokens tokens, t.isEnd = false := by
  intro t ht
  simpa using List.all_eq_true.1 List.all_takeWhile t (List.mem_filter.1 ht).1

theorem statementTokens_dropWhile (tokens : List Token) :
    statementTokens (tokens.dropWhile isComment) = statementTokens tokens := by
  induction tokens with
  | nil => rfl
  | cons t tokens ih =>
    by_cases ht : isComment t
    · rw [List.dropWhile_cons_of_pos ht, ih]
      simp [statementTokens, isEnd_eq_false_of_isComment ht, ht]
    · rw [List.dropWhile_cons_of_neg ht]

theorem statementComments_dropWhile (tokens : List Token) :
    (tokens.takeWhile isComment).map (·.text) ++
      statementComments (tokens.dropWhile isComment) = statementComments tokens := by
  induction tokens with
  | nil => rfl
  | cons t tokens ih =>
    by_cases ht : isComment t
    · rw [List.dropWhile_cons_of_pos ht, List.takeWhile_cons_of_pos ht, List.map_cons,
        List.cons_append, ih]
      simp [statementComments, isEnd_eq_false_of_isComment ht, ht]
    · simp [List.dropWhile_cons_of_neg ht, List.takeWhile_cons_of_neg ht]

/-- The tokens of a statement can be read up to its end, and its comments are put aside then. -/
theorem exists_reads_settle (hlast : s.last.kind = .endOfInput) :
    ∃ s', s.settle.Reads (statementTokens s.rest) s' ∧ s'.current.isEnd = true ∧
      s'.comments = s.comments ++ statementComments s.rest := by
  induction hn : s.rest.length using Nat.strongRecOn generalizing s with
  | ind n ih =>
    rw [← statementTokens_dropWhile, ← statementComments_dropWhile, ← List.append_assoc]
    cases hrest : s.rest.dropWhile isComment with
    | nil =>
      refine ⟨s.settle, rfl, ?_, by simp [settle, statementComments]⟩
      simp [current, hrest, Token.isEnd, hlast]
    | cons t rest =>
      -- The comments in front are put aside, so the next token is none.
      have hcurrent : s.settle.current = t := by simp [current, hrest]
      have ht : isComment t = false := by
        have := List.head?_dropWhile_not isComment s.rest
        simpa [hrest] using this
      by_cases hend : t.isEnd
      · exact ⟨s.settle, by simp [statementTokens, hend], by rw [hcurrent]; exact hend,
          by simp [settle, statementComments, hend]⟩
      · have hlen : rest.length < s.rest.length := by
          have := (List.dropWhile_suffix isComment (l := s.rest)).length_le
          rw [hrest] at this
          exact this
        obtain ⟨s', hreads, hend', hcomments⟩ :=
          ih rest.length (hn ▸ hlen) (s := { s.settle with rest := rest }) hlast rfl
        refine ⟨s', ?_, hend', ?_⟩
        · have htail : s.settle.tail = settle { s.settle with rest := rest } := by
            simp [tail, hrest]
          simpa [statementTokens, hend, ht, hcurrent, htail] using hreads
        · simpa [statementComments, hend, ht, settle] using hcomments

/-! ### Streams of scanned tokens -/

/-- What holds of streams of scanned tokens. -/
structure Fit (s : TokenStream) : Prop where
  /-- After the last token, the end of the input is shown. -/
  last : s.last.kind = .endOfInput
  /-- A parenthesis follows each function. -/
  called : ∀ t ts, t :: ts <:+ s.rest → t.kind = .function →
    ∃ u us, ts = u :: us ∧ u.kind = .leftParen
  /-- Numbers are spelled as numbers. -/
  numbers : ∀ t ∈ s.rest, t.kind = .number → Decimal.Numeral t.text.toList

theorem Fit.of_suffix (hs : s.Fit) (hlast : s'.last = s.last) (h : s'.rest <:+ s.rest) :
    s'.Fit :=
  ⟨hlast ▸ hs.last, fun t ts hts => hs.called t ts (hts.trans h),
    fun t ht => hs.numbers t (h.subset ht)⟩

theorem Fit.tail (hs : s.Fit) : s.tail.Fit :=
  hs.of_suffix rfl ((List.dropWhile_suffix _).trans (List.tail_suffix _))

theorem Fit.reads (hs : s.Fit) (h : s.Reads ts s') : s'.Fit := by
  induction ts generalizing s with
  | nil => exact h ▸ hs
  | cons t ts ih => exact ih hs.tail h.2

theorem Fit.head?_eq (hs : s.Fit) (h : s.current.kind ≠ .endOfInput) :
    s.rest.head? = some s.current := by
  unfold current at h ⊢
  cases hrest : s.rest.head? with
  | none =>
    rw [hrest] at h
    exact absurd hs.last h
  | some t => rfl

/-- A function is followed by a parenthesis, with no comment between. -/
theorem Fit.kind_current_tail (hs : s.Fit) (h : s.current.kind = .function) :
    s.tail.current.kind = .leftParen := by
  have hhead := hs.head?_eq (by rw [h]; decide)
  obtain ⟨ts, hts⟩ := List.head?_eq_some_iff.1 hhead
  obtain ⟨u, us, rfl, hu⟩ := hs.called s.current ts (hts ▸ List.suffix_refl _) h
  have htail : s.tail.rest = u :: us := by
    rw [rest_tail, hts, List.tail_cons, List.dropWhile_cons_of_neg (by simp [isComment, hu])]
  rw [current, htail]
  exact hu

theorem Fit.numeral (hs : s.Fit) (h : s.current.kind = .number) :
    Decimal.Numeral s.current.text.toList :=
  hs.numbers _ (List.mem_of_head? (hs.head?_eq (by rw [h]; decide))) h

theorem Fit.length_tail_lt (hs : s.Fit) (h : s.current.kind ≠ .endOfInput) :
    s.tail.rest.length < s.rest.length := by
  obtain ⟨ts, hts⟩ := List.head?_eq_some_iff.1 (hs.head?_eq h)
  have := (List.dropWhile_suffix isComment (l := ts)).length_le
  simp only [rest_tail, hts, List.tail_cons, List.length_cons]
  omega

/-- Tokens that can be read are not more than those that are left. -/
theorem Fit.length_le (hs : s.Fit) (h : s.Reads ts s') (hts : ∀ t ∈ ts, t.isEnd = false) :
    ts.length ≤ s.rest.length := by
  induction ts generalizing s with
  | nil => simp
  | cons t ts ih =>
    obtain ⟨rfl, h⟩ := h
    have hend := hts _ (.head _)
    have hlt := hs.length_tail_lt fun hk => by simp [Token.isEnd, hk] at hend
    have hle := ih hs.tail h fun t ht => hts t (.tail _ ht)
    simp only [List.length_cons]
    omega

end TokenStream

end RowSieve

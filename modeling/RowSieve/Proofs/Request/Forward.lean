import RowSieve.Proofs.Request.Statements

/-!
# Readers go forward

A reader never goes back in a stream: what it leaves is the last part of what it was given
(`Parse.Forward`).  This holds with any bound and also where the reader fails.  A reader of
something that cannot be empty takes at least one token when it succeeds (`Parse.Takes`): the next
token is of a kind that it asks for, and so it is not the end of the input that a stream shows when
nothing is left.

There is one lemma for each reader, along its definition.
-/

namespace RowSieve

open TokenStream

namespace Parse

variable {σ α β : Type} {p : Parse α} {f : α → Parse β} {a : α} {d : Dialect σ}
  {s t : TokenStream} {kind : Kind} {expected : String}

/-- What is left of a stream, whether the reader succeeds or fails. -/
def left (p : Parse α) (s : TokenStream) : TokenStream :=
  match p s with
  | .ok _ t => t
  | .error _ t => t

/-- The reader leaves a last part of any stream. -/
def Forward (p : Parse α) : Prop := ∀ s, (p.left s).Behind s

theorem Forward.behind (h : Forward p) (hp : p s = .ok a t) : t.Behind s := by
  have hs := h s
  rwa [left, hp] at hs

theorem Forward.bind (hp : Forward p) (hf : ∀ a, Forward (f a)) : Forward (p >>= f) := by
  intro s
  have hs := hp s
  change (left (EStateM.bind p f) s).Behind s
  unfold left EStateM.bind
  unfold left at hs
  cases h : p s with
  | error e t => rwa [h] at hs
  | ok a t =>
    rw [h] at hs
    exact (hf a t).trans hs

/-! ### Basic readers -/

theorem forward_pure : Forward (pure a) := behind_refl

theorem forward_throw {e : SourceError} : Forward (throw e : Parse α) := behind_refl

theorem forward_peek : Forward peek := behind_refl

theorem forward_remaining : Forward remaining := behind_refl

theorem forward_advance : Forward advance := behind_tail

theorem forward_takeComments : Forward takeComments := fun _ => ⟨rfl, List.suffix_refl _⟩

theorem forward_check : Forward (check kind) := forward_peek.bind fun _ => forward_pure

theorem forward_fail : Forward (fail expected : Parse α) := forward_peek.bind fun _ => forward_throw

theorem forward_eat : Forward (eat kind) := by
  refine forward_check.bind fun found => ?_
  split
  · exact forward_advance.bind fun _ => forward_pure
  · exact forward_pure

theorem forward_expect : Forward (expect kind expected) := by
  refine forward_eat.bind fun found => ?_
  split
  · exact forward_pure
  · exact forward_fail

/-! ### Bodies of clauses -/

/-- Behind a name that is an argument, where the given reader reads a call. -/
theorem forward_named {call : Parse Node} (hcall : Forward call) (name : String) :
    Forward (do if (← check .leftParen) then call else return .field name) := by
  refine forward_check.bind fun paren => ?_
  split
  · exact hcall
  · exact forward_pure

theorem forward_calls (k : Nat) : (∀ name, Forward (callWithin k name)) ∧
    Forward (argumentsWithin k) ∧ Forward (argumentWithin k) := by
  induction k with
  | zero => exact ⟨fun _ => forward_fail, forward_fail, forward_fail⟩
  | succ k ih =>
    obtain ⟨hcall, harguments, hargument⟩ := ih
    refine ⟨fun name => ?call, ?arguments, ?argument⟩
    case call =>
      refine forward_expect.bind fun _ => forward_eat.bind fun close => ?_
      split
      · exact forward_pure
      · exact harguments.bind fun _ => forward_pure
    case arguments =>
      refine hargument.bind fun first => forward_eat.bind fun comma => ?_
      split
      · exact harguments.bind fun _ => forward_pure
      · exact forward_expect.bind fun _ => forward_pure
    case argument =>
      refine forward_peek.bind fun token => ?_
      split
      · exact forward_advance.bind fun _ => forward_named (hcall token.text) token.text
      · exact forward_advance.bind fun _ => forward_named (hcall token.text) token.text
      · exact forward_advance.bind fun _ => forward_pure
      · exact forward_advance.bind fun _ => forward_pure
      · exact forward_advance.bind fun _ => forward_expect.bind fun _ => forward_pure
      · exact forward_fail

theorem forward_readCall (name : String) : Forward (readCall name) :=
  forward_remaining.bind fun _ => (forward_calls _).1 name

theorem forward_readColumnSource : Forward readColumnSource := by
  refine forward_peek.bind fun token => ?_
  split
  · exact forward_throw
  · exact forward_advance.bind fun _ => forward_pure
  · exact forward_advance.bind fun _ => (forward_readCall token.text).bind fun _ => forward_pure
  · exact forward_fail

theorem forward_readColumn : Forward readColumn := by
  refine forward_readColumnSource.bind fun column => forward_eat.bind fun found => ?_
  split
  · exact forward_expect.bind fun _ => forward_pure
  · exact forward_pure

theorem forward_columnsWithin (d : Dialect σ) (k : Nat) : Forward (columnsWithin d k) := by
  induction k with
  | zero => exact forward_fail
  | succ k ih =>
    refine forward_readColumn.bind fun column => forward_eat.bind fun comma => ?_
    split
    · exact ih.bind fun _ => forward_pure
    · refine forward_peek.bind fun token => ?_
      split
      · exact forward_pure
      · exact forward_fail

theorem forward_readSource : Forward readSource := by
  have halias (name : String) (arguments : List Node) : Forward (do
      if (← eat .asWord).isSome then
        let aliased ← expect .word "a source alias"
        return Source.mk name arguments (some aliased.text)
      return Source.mk name arguments none) := by
    refine forward_eat.bind fun found => ?_
    split
    · exact forward_expect.bind fun _ => forward_pure
    · exact forward_pure
  refine forward_peek.bind fun token => ?_
  split
  · exact forward_fail
  · refine forward_advance.bind fun _ => forward_check.bind fun paren => ?_
    split
    · refine (forward_readCall token.text).bind fun node => ?_
      split
      · exact halias token.text _
      · exact halias token.text []
    · exact halias token.text []

theorem forward_readOperand : Forward readOperand := by
  refine forward_peek.bind fun token => ?_
  split
  · exact forward_advance.bind fun _ => forward_pure
  · exact forward_advance.bind fun _ => forward_pure
  · exact forward_advance.bind fun _ => forward_pure
  · exact forward_advance.bind fun _ => forward_expect.bind fun _ => forward_pure
  · exact forward_fail

theorem forward_readPredicate : Forward readPredicate := by
  refine forward_expect.bind fun field => forward_peek.bind fun token => ?_
  split
  · exact forward_fail
  · exact forward_advance.bind fun _ => forward_readOperand.bind fun _ => forward_pure

theorem forward_predicatesWithin (d : Dialect σ) (k : Nat) (r : Request) :
    Forward (predicatesWithin d k r) := by
  induction k generalizing r with
  | zero => exact forward_fail
  | succ k ih =>
    refine forward_readPredicate.bind fun found => forward_peek.bind fun next => ?_
    split
    · exact forward_advance.bind fun _ => ih _
    · exact forward_throw
    · split
      · exact forward_pure
      · exact forward_fail

theorem forward_readLimit : Forward readLimit := by
  refine forward_expect.bind fun token => ?_
  split
  · exact forward_pure
  · exact forward_throw

theorem forward_read (d : Dialect σ) (body : Body) (r : Request) : Forward (body.read d r) := by
  refine forward_remaining.bind fun bound => ?_
  cases body with
  | columns => exact (forward_columnsWithin d _).bind fun _ => forward_pure
  | source => exact forward_readSource.bind fun _ => forward_pure
  | predicates => exact forward_predicatesWithin d _ r
  | limit => exact forward_readLimit.bind fun _ => forward_pure

/-! ### Statements -/

theorem forward_readClauses (d : Dialect σ) (clauses : List (Clause σ)) (r : Request) :
    Forward (readClauses d clauses r) := by
  induction clauses generalizing r with
  | nil => exact forward_pure
  | cons clause clauses ih =>
    refine forward_check.bind fun found => ?_
    split
    · exact forward_advance.bind fun _ => (forward_read d _ r).bind fun r' => ih r'
    · split
      · exact ih r
      · exact forward_peek.bind fun _ => forward_throw

theorem forward_readStatement (d : Dialect σ) : Forward (readStatement d) := by
  refine forward_peek.bind fun first => ?_
  split
  · exact forward_throw
  · exact (forward_readClauses d _ _).bind fun _ => forward_takeComments.bind fun _ => forward_pure

theorem forward_skipToEnd (k : Nat) : Forward (skipToEnd k) := by
  induction k with
  | zero => exact forward_pure
  | succ k ih =>
    refine forward_peek.bind fun token => ?_
    split
    · exact forward_pure
    · exact forward_advance.bind fun _ => ih

theorem forward_finishStatement (d : Dialect σ) : Forward (finishStatement d) := by
  have hend : Forward (do let _ ← eat .endOfStatement : Parse Unit) :=
    forward_eat.bind fun _ => forward_pure
  have hskip : Forward (do skipToEnd (← remaining); let _ ← eat .endOfStatement : Parse Unit) :=
    forward_remaining.bind fun k => (forward_skipToEnd k).bind fun _ => hend
  refine forward_peek.bind fun token => ?_
  split
  · split
    · exact forward_throw.bind fun _ => hskip
    · exact hskip
  · exact hend

theorem forward_skipSemicolons (k : Nat) : Forward (skipSemicolons k) := by
  induction k with
  | zero => exact forward_pure
  | succ k ih =>
    refine forward_eat.bind fun found => ?_
    split
    · exact ih
    · exact forward_pure

theorem forward_statementsWithin (d : Dialect σ) (k : Nat) : Forward (statementsWithin d k) := by
  induction k with
  | zero => exact forward_pure
  | succ k ih =>
    refine forward_remaining.bind fun _ => (forward_skipSemicolons _).bind fun _ =>
      forward_check.bind fun finished => ?_
    split
    · exact forward_pure
    · exact (forward_readStatement d).bind fun _ => (forward_finishStatement d).bind fun _ =>
        ih.bind fun _ => forward_pure

theorem forward_allStatements (d : Dialect σ) : Forward (allStatements d) :=
  forward_remaining.bind fun _ => forward_statementsWithin d _

/-! ### Taking tokens -/

/-- Where the reader succeeds on this stream, it takes at least one token. -/
def TakesFrom (s : TokenStream) (p : Parse α) : Prop :=
  ∀ ⦃a t⦄, p s = .ok a t → t.rest.length < s.rest.length

/-- Where the reader succeeds, it takes at least one token. -/
def Takes (p : Parse α) : Prop := ∀ ⦃s⦄, s.last.kind = .endOfInput → TakesFrom s p

theorem takesFrom_fail : TakesFrom s (fail expected : Parse α) := fun _ _ h => absurd h fail_ne_ok

theorem takesFrom_throw {e : SourceError} : TakesFrom s (throw e : Parse α) :=
  fun _ _ h => absurd h throw_ne_ok

theorem TakesFrom.bind (hp : TakesFrom s p) (hf : ∀ a, Forward (f a)) : TakesFrom s (p >>= f) := by
  intro b t h
  obtain ⟨a, u, ha, hb⟩ := bind_eq_ok.1 h
  exact Nat.lt_of_le_of_lt ((hf a).behind hb).rest.length_le (hp ha)

/-- What goes forward and then takes a token takes one. -/
theorem Forward.bind_takesFrom (hp : Forward p)
    (hf : ∀ a t, p s = .ok a t → TakesFrom t (f a)) : TakesFrom s (p >>= f) := by
  intro b t h
  obtain ⟨a, u, ha, hb⟩ := bind_eq_ok.1 h
  exact Nat.lt_of_lt_of_le (hf a u ha hb) (hp.behind ha).rest.length_le

theorem Takes.bind (hp : Takes p) (hf : ∀ a, Forward (f a)) : Takes (p >>= f) :=
  fun _ hlast => (hp hlast).bind hf

theorem takesFrom_advance (hlast : s.last.kind = .endOfInput)
    (hk : s.current.kind ≠ .endOfInput) : TakesFrom s advance := by
  intro a t h
  cases h
  exact length_tail_lt (rest_ne_nil_of_kind_ne hlast hk)

theorem takes_expect (hk : kind ≠ .endOfInput) : Takes (expect kind expected) := by
  intro s hlast t u h
  rw [← bind_pure (expect kind expected), bind_expect_eq_ok] at h
  obtain ⟨hkind, hrest⟩ := h
  cases hrest
  exact length_tail_lt (rest_ne_nil_of_kind_ne hlast (hkind ▸ hk))

theorem takes_argumentWithin (k : Nat) : Takes (argumentWithin k) := by
  intro s hlast
  cases k with
  | zero => exact takesFrom_fail
  | succ k =>
    have hname := forward_named ((forward_calls k).1 s.current.text) s.current.text
    refine forward_peek.bind_takesFrom fun token t ht => ?_
    cases ht
    have hadvance {kind : Kind} (h : s.current.kind = kind) (hk : kind ≠ .endOfInput) :
        TakesFrom s advance := takesFrom_advance hlast (h ▸ hk)
    split
    next h => exact (hadvance h (by decide)).bind fun _ => hname
    next h => exact (hadvance h (by decide)).bind fun _ => hname
    next h => exact (hadvance h (by decide)).bind fun _ => forward_pure
    next h => exact (hadvance h (by decide)).bind fun _ => forward_pure
    next h =>
      exact (hadvance h (by decide)).bind fun _ => forward_expect.bind fun _ => forward_pure
    next => exact takesFrom_fail

theorem takes_readColumn : Takes readColumn := by
  have hsource : Takes readColumnSource := by
    intro s hlast
    refine forward_peek.bind_takesFrom fun token t ht => ?_
    cases ht
    have hadvance {kind : Kind} (h : s.current.kind = kind) (hk : kind ≠ .endOfInput) :
        TakesFrom s advance := takesFrom_advance hlast (h ▸ hk)
    split
    next => exact takesFrom_throw
    next h => exact (hadvance h (by decide)).bind fun _ => forward_pure
    next h =>
      exact (hadvance h (by decide)).bind fun _ =>
        (forward_readCall s.current.text).bind fun _ => forward_pure
    next => exact takesFrom_fail
  refine hsource.bind fun column => forward_eat.bind fun found => ?_
  split
  · exact forward_expect.bind fun _ => forward_pure
  · exact forward_pure

theorem takes_readPredicate : Takes readPredicate := by
  refine (takes_expect (by decide)).bind fun field => forward_peek.bind fun token => ?_
  split
  · exact forward_fail
  · exact forward_advance.bind fun _ => forward_readOperand.bind fun _ => forward_pure

/-- A statement takes at least one token where the input goes on, if the first of its clauses opens
with the word that the statement opens with. -/
theorem takesFrom_readStatement
    (hfirst : ∀ st ∈ d.statements, ∃ c cs, st.clauses = c :: cs ∧ c.keyword = st.entry)
    (hlast : s.last.kind = .endOfInput) (hk : s.current.kind ≠ .endOfInput) :
    TakesFrom s (readStatement d) := by
  refine forward_peek.bind_takesFrom fun first t ht => ?_
  cases ht
  split
  next => exact takesFrom_throw
  next st hst =>
    obtain ⟨c, cs, hcs, hc⟩ := hfirst st (List.mem_of_find?_eq_some hst)
    have hentry : st.entry = s.current.kind := by simpa using List.find?_some hst
    have hclauses : TakesFrom s (readClauses d st.clauses (.blank st.kind)) := by
      rw [hcs]
      refine forward_check.bind_takesFrom fun found t ht => ?_
      cases ht
      rw [if_pos (decide_eq_true (hc.trans hentry).symm)]
      exact (takesFrom_advance hlast hk).bind fun _ =>
        (forward_read d _ _).bind fun r => forward_readClauses d cs r
    exact hclauses.bind fun _ => forward_takeComments.bind fun _ => forward_pure

end Parse

end RowSieve

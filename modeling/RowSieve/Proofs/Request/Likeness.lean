import RowSieve.Proofs.Request.Acceptance

/-!
# What readers cannot tell apart

A reader looks at the next token of a stream, goes on behind it, or fails there, and does nothing
else.  So whatever two streams have in common as long as both are read on is kept by every reader.
It is described by a `Likeness`, with one condition for each of these steps.  Where two streams are
alike, a reader succeeds on both with results that are alike and leaves streams that are alike
again, or it fails on both with errors that are alike (`Likeness.Agree`).  This is proved along the
definition of a reader, with one lemma for each basic reader, for any likeness: streams that show
the same tokens, streams with and without comments, or one stream and itself, which is an invariant
(`Likeness.ofInvariant`).

A reader with a bound agrees with itself under any other bound, if both allow for all steps that the
tokens left can take.
-/

namespace RowSieve

open TokenStream Phrase

/-- Two tokens that are the same, wherever they stand. -/
structure Token.Same (t u : Token) : Prop where
  /-- They are of one kind. -/
  kind : t.kind = u.kind
  /-- They say the same. -/
  text : t.text = u.text

/-- Two requests that differ at most in their comments. -/
def Request.SameUpToComments (r r' : Request) : Prop :=
  { r with comments := [] } = { r' with comments := [] }

/-- Two errors that say the same of tokens that are alike. -/
inductive SourceError.Alike (R : Token → Token → Prop) : SourceError → SourceError → Prop where
  /-- No statement begins there. -/
  | noStatement {x y} : R x y → Alike R (.noStatement x) (.noStatement y)
  /-- A clause is missing there. -/
  | noClause {x y} (keyword : Kind) :
    R x y → Alike R (.noClause keyword x.position) (.noClause keyword y.position)
  /-- Something else should stand there. -/
  | unexpected {x y} (expected : String) :
    R x y → Alike R (.unexpected expected x) (.unexpected expected y)
  /-- What stands there is not supported. -/
  | unsupported {x y} (feature : String) :
    R x y → Alike R (.unsupported feature x.position) (.unsupported feature y.position)
  /-- The source goes on there. -/
  | trailing {x y} : R x y → Alike R (.trailing x) (.trailing y)

theorem SourceError.Alike.eq {e e' : SourceError} (h : e.Alike Eq e') : e = e' := by
  cases h with
  | noStatement h => rw [h]
  | noClause _ h => rw [h]
  | unexpected _ h => rw [h]
  | unsupported _ h => rw [h]
  | trailing h => rw [h]

/-- What two streams have in common as long as both are read on. -/
structure Likeness where
  /-- The streams are alike. -/
  stream : TokenStream → TokenStream → Prop
  /-- The next tokens of such streams are alike. -/
  token : Token → Token → Prop
  /-- At these ends, the streams are not read on. -/
  stops : List Kind
  /-- How much of the first stream is still to be read, where these tokens are left. -/
  size : List Token → Nat
  /-- They are ends. -/
  ends : stops ⊆ [.endOfStatement, .endOfInput]
  /-- Both streams end with the end of the input. -/
  last {s s' : TokenStream} :
    stream s s' → s.last.kind = .endOfInput ∧ s'.last.kind = .endOfInput
  /-- One comes from streams to tokens. -/
  current {s s' : TokenStream} : stream s s' → token s.current s'.current
  /-- A reader cannot tell the tokens apart, except for ends. -/
  same {x y : Token} : token x y → x.Same y ∨ x.kind ∈ stops ∧ y.kind ∈ stops
  /-- The streams stay alike behind a token. -/
  tail {s s' : TokenStream} : stream s s' → s.current.kind ∉ stops → stream s.tail s'.tail
  /-- There is less to be read when something has been read. -/
  size_lt {s s' : TokenStream} {ts : List Token} :
    stream s s' → ts <:+ s.rest → ts ≠ s.rest → size ts < size s.rest
  /-- There are as many tokens left, in both streams. -/
  size_le {s s' : TokenStream} :
    stream s s' → size s.rest ≤ s.rest.length ∧ size s.rest ≤ s'.rest.length

namespace TokenStream

variable {s : TokenStream}

theorem length_tail_lt (h : s.rest ≠ []) : s.tail.rest.length < s.rest.length := by
  obtain ⟨x, xs, hx⟩ := List.exists_cons_of_ne_nil h
  have hle := (List.dropWhile_suffix isComment (l := xs)).length_le
  simp only [rest_tail, hx, List.tail_cons, List.length_cons]
  omega

theorem rest_tail_suffix (s : TokenStream) : s.tail.rest <:+ s.rest :=
  (List.dropWhile_suffix _).trans (List.tail_suffix _)

theorem rest_ne_nil_of_kind_ne (hlast : s.last.kind = .endOfInput)
    (hk : s.current.kind ≠ .endOfInput) : s.rest ≠ [] := by
  intro hnil
  rw [current, hnil] at hk
  exact hk hlast

end TokenStream

namespace Likeness

variable {σ α β γ δ : Type} {L : Likeness} {n : Nat} {s s' t : TokenStream} {x y : Token}
  {kind : Kind}

theorem notMem_stops (L : Likeness) (h : kind ∉ [Kind.endOfStatement, .endOfInput]) :
    kind ∉ L.stops := fun hk => h (L.ends hk)

theorem size_le_of_suffix {ts : List Token} (hs : L.stream s s') (h : ts <:+ s.rest) :
    L.size ts ≤ L.size s.rest := by
  by_cases heq : ts = s.rest
  · rw [heq]
  · exact Nat.le_of_lt (L.size_lt hs h heq)

theorem size_tail_lt (hs : L.stream s s') (hk : s.current.kind ≠ .endOfInput) :
    L.size s.tail.rest < L.size s.rest := by
  have hlt := length_tail_lt (rest_ne_nil_of_kind_ne (L.last hs).1 hk)
  exact L.size_lt hs s.rest_tail_suffix fun heq => Nat.ne_of_lt hlt (congrArg List.length heq)

/-! ### Agreement -/

/-- Two runs on streams that are alike, where `s` is the first of them, have come to the same. -/
def Outcome (L : Likeness) (R : α → β → Prop) (s : TokenStream) :
    EStateM.Result SourceError TokenStream α → EStateM.Result SourceError TokenStream β → Prop
  | .ok a t, .ok b t' => R a b ∧ t.rest <:+ s.rest ∧ L.stream t t'
  | .error e _, .error e' _ => e.Alike L.token e'
  | _, _ => False

/-- Two readers come to the same on streams that are alike, where these show the tokens `x` and `y`
and no more than `n` is to be read. -/
def AgreeAt (L : Likeness) (n : Nat) (x y : Token) (R : α → β → Prop) (p : Parse α) (q : Parse β) :
    Prop :=
  ∀ ⦃s s'⦄, L.stream s s' → L.size s.rest ≤ n → s.current = x → s'.current = y →
    L.Outcome R s (p s) (q s')

/-- Two readers come to the same on streams that are alike. -/
def Agree (L : Likeness) (n : Nat) (R : α → β → Prop) (p : Parse α) (q : Parse β) : Prop :=
  ∀ x y, L.token x y → L.AgreeAt n x y R p q

variable {R : α → β → Prop} {S : γ → δ → Prop} {p : Parse α} {q : Parse β}

theorem Outcome.of_suffix (hst : t.rest <:+ s.rest)
    {a : EStateM.Result SourceError TokenStream α} {b : EStateM.Result SourceError TokenStream β}
    (h : L.Outcome R t a b) : L.Outcome R s a b := by
  cases a with
  | error e u => cases b <;> exact h
  | ok a u =>
    cases b with
    | error e u' => exact h
    | ok b u' => exact ⟨h.1, h.2.1.trans hst, h.2.2⟩

theorem Outcome.bind {f : α → Parse γ} {g : β → Parse δ} (h : L.Outcome R s (p s) (q s'))
    (hf : ∀ a t b t', p s = .ok a t → q s' = .ok b t' → R a b → t.rest <:+ s.rest → L.stream t t' →
      L.Outcome S t (f a t) (g b t')) : L.Outcome S s ((p >>= f) s) ((q >>= g) s') := by
  change L.Outcome S s (EStateM.bind p f s) (EStateM.bind q g s')
  unfold EStateM.bind
  cases hp : p s with
  | error e u =>
    rw [hp] at h
    cases hq : q s' with
    | error e' u' => rw [hq] at h; exact h
    | ok b u' => rw [hq] at h; exact h.elim
  | ok a u =>
    rw [hp] at h
    cases hq : q s' with
    | error e u' => rw [hq] at h; exact h.elim
    | ok b u' =>
      rw [hq] at h
      obtain ⟨hab, hsuffix, hu⟩ := h
      exact (hf a u b u' hp hq hab hsuffix hu).of_suffix hsuffix

theorem Outcome.exists_of_ok {a : α} (h : L.Outcome R s (p s) (q s')) (hp : p s = .ok a t) :
    t.rest <:+ s.rest ∧ ∃ b t', q s' = .ok b t' ∧ R a b ∧ L.stream t t' := by
  rw [hp] at h
  cases hq : q s' with
  | error e u => rw [hq] at h; exact h.elim
  | ok b t' =>
    rw [hq] at h
    exact ⟨h.2.1, b, t', rfl, h.1, h.2.2⟩

theorem Outcome.exists_of_error {e : SourceError} (h : L.Outcome R s (p s) (q s'))
    (hp : p s = .error e t) : ∃ e' t', q s' = .error e' t' ∧ e.Alike L.token e' := by
  rw [hp] at h
  cases hq : q s' with
  | error e' t' =>
    rw [hq] at h
    exact ⟨e', t', rfl, h⟩
  | ok b u => rw [hq] at h; exact h.elim

theorem Agree.outcome (h : L.Agree n R p q) (hs : L.stream s s') (hn : L.size s.rest ≤ n) :
    L.Outcome R s (p s) (q s') :=
  h _ _ (L.current hs) hs hn rfl rfl

theorem AgreeAt.bind {f : α → Parse γ} {g : β → Parse δ} (h : L.AgreeAt n x y R p q)
    (hf : ∀ a b, R a b → L.Agree n S (f a) (g b)) : L.AgreeAt n x y S (p >>= f) (q >>= g) :=
  fun _ _ hs hn hx hy => (h hs hn hx hy).bind fun a _ b _ _ _ hab hsuffix ht =>
    (hf a b hab).outcome ht ((size_le_of_suffix hs hsuffix).trans hn)

theorem Agree.bind {f : α → Parse γ} {g : β → Parse δ} (h : L.Agree n R p q)
    (hf : ∀ a b, R a b → L.Agree n S (f a) (g b)) : L.Agree n S (p >>= f) (q >>= g) :=
  fun x y hxy => (h x y hxy).bind hf

theorem agree_pure {a : α} {b : β} (h : R a b) : L.Agree n R (pure a) (pure b) :=
  fun _ _ _ _ _ hs _ _ _ => ⟨h, List.suffix_refl _, hs⟩

theorem agreeAt_throw {e e' : SourceError} (h : e.Alike L.token e') :
    L.AgreeAt n x y R (throw e) (throw e') := fun _ _ _ _ _ _ => h

theorem agree_fail {expected : String} : L.Agree n R (fail expected) (fail expected) := by
  rintro x y hxy s s' hs hn rfl rfl
  exact .unexpected expected hxy

/-- Looking at a token: both see the same one, or both see a stop. -/
theorem agree_peek {f : Token → Parse α} {g : Token → Parse β}
    (hsame : ∀ x y, x.Same y → L.token x y → x.kind ∉ L.stops → L.AgreeAt n x y R (f x) (g y))
    (hstop : ∀ x y, x.kind = .endOfStatement ∨ x.kind = .endOfInput →
      y.kind = .endOfStatement ∨ y.kind = .endOfInput → L.token x y →
      L.AgreeAt n x y R (f x) (g y)) : L.Agree n R (peek >>= f) (peek >>= g) := by
  have hend {kind : Kind} (h : kind ∈ L.stops) : kind = .endOfStatement ∨ kind = .endOfInput := by
    simpa using L.ends h
  rintro x y hxy s s' hs hn rfl rfl
  rw [bind_peek, bind_peek]
  by_cases hx : s.current.kind ∈ L.stops
  · have hy : s'.current.kind ∈ L.stops := (L.same hxy).elim (fun h => h.kind ▸ hx) And.right
    exact hstop _ _ (hend hx) (hend hy) hxy hs hn rfl rfl
  · have h := (L.same hxy).resolve_right fun h => hx h.1
    exact hsame _ _ h hxy hx hs hn rfl rfl

/-- Less is to be read behind a token other than the end of the input. -/
theorem agreeAt_advance (hx : x.kind ∉ L.stops) {f : Token → Parse α} {g : Token → Parse β}
    (h : ∀ m ≤ n, (x.kind ≠ .endOfInput → m < n) → L.Agree m R (f x) (g y)) :
    L.AgreeAt n x y R (advance >>= f) (advance >>= g) := by
  rintro s s' hs hn rfl rfl
  rw [bind_advance, bind_advance]
  have hle := size_le_of_suffix hs s.rest_tail_suffix
  refine .of_suffix s.rest_tail_suffix ((h (L.size s.tail.rest) (hle.trans hn) fun hk => ?_).outcome
    (L.tail hs hx) (Nat.le_refl _))
  exact Nat.lt_of_lt_of_le (size_tail_lt hs hk) hn

/-- The number of tokens that are left is no less than what is to be read. -/
theorem agree_remaining {f : Nat → Parse α} {g : Nat → Parse β}
    (h : ∀ m k k', m ≤ k → m ≤ k' → L.Agree m R (f k) (g k')) :
    L.Agree n R (remaining >>= f) (remaining >>= g) := by
  intro x y _ s s' hs _ _ _
  rw [bind_remaining, bind_remaining]
  exact (h (L.size s.rest) _ _ (L.size_le hs).1 (L.size_le hs).2).outcome hs (Nat.le_refl _)

theorem agree_check (hk : kind ∉ L.stops) {f : Bool → Parse α} {g : Bool → Parse β}
    (htrue : ∀ x y, x.Same y → L.token x y → x.kind = kind → L.AgreeAt n x y R (f true) (g true))
    (hfalse : ∀ x y, L.token x y → x.kind ≠ kind → L.AgreeAt n x y R (f false) (g false)) :
    L.Agree n R (check kind >>= f) (check kind >>= g) := by
  rintro x y hxy s s' hs hn rfl rfl
  rw [bind_check, bind_check]
  by_cases hx : s.current.kind = kind
  · have h := (L.same hxy).resolve_right fun h => hk (hx ▸ h.1)
    rw [decide_eq_true hx, decide_eq_true (h.kind ▸ hx)]
    exact htrue _ _ h hxy hx hs hn rfl rfl
  · have hy : s'.current.kind ≠ kind := (L.same hxy).elim (fun h => h.kind ▸ hx)
      fun h hy => hk (hy ▸ h.2)
    rw [decide_eq_false hx, decide_eq_false hy]
    exact hfalse _ _ hxy hx hs hn rfl rfl

theorem agree_eat (hk : kind ∉ L.stops) {f : Option Token → Parse α} {g : Option Token → Parse β}
    (hsome : ∀ m ≤ n, (kind ≠ .endOfInput → m < n) → ∀ x y, x.Same y → L.token x y →
      L.Agree m R (f (some x)) (g (some y)))
    (hnone : L.Agree n R (f none) (g none)) : L.Agree n R (eat kind >>= f) (eat kind >>= g) := by
  rw [eat, bind_assoc, bind_assoc]
  refine agree_check hk (fun x y hsame hxy hx => ?_) fun x y hxy _ => ?_
  · rw [if_pos rfl, bind_assoc, bind_assoc]
    refine agreeAt_advance (hx ▸ hk) fun m hm hlt => ?_
    rw [pure_bind, pure_bind]
    exact hsome m hm (hx ▸ hlt) x y hsame hxy
  · rw [if_neg Bool.false_ne_true, pure_bind, pure_bind]
    exact hnone x y hxy

/-- If a token of a kind comes next, it is read, and then both go on; else both go on without it. -/
theorem agree_eat_isSome (hk : kind ∉ L.stops) {p' : Parse α} {q' : Parse β}
    (hsome : ∀ m ≤ n, (kind ≠ .endOfInput → m < n) → L.Agree m R p q)
    (hnone : L.Agree n R p' q') :
    L.Agree n R (do if (← eat kind).isSome then p else p')
      (do if (← eat kind).isSome then q else q') :=
  agree_eat hk (fun m hm hlt _ _ _ _ => hsome m hm hlt) hnone

theorem agree_expect (hk : kind ∉ L.stops) {expected : String} {f : Token → Parse α}
    {g : Token → Parse β}
    (h : ∀ m ≤ n, (kind ≠ .endOfInput → m < n) → ∀ x y, x.Same y → L.token x y →
      L.Agree m R (f x) (g y)) :
    L.Agree n R (expect kind expected >>= f) (expect kind expected >>= g) := by
  rw [expect, bind_assoc, bind_assoc]
  refine agree_eat hk (fun m hm hlt x y hsame hxy => ?_) ?_
  · rw [pure_bind, pure_bind]
    exact h m hm hlt x y hsame hxy
  · exact agree_fail.bind (R := fun _ _ => False) fun _ _ => False.elim

/-! ### Bodies of clauses -/

theorem endsClause_eq_of_same {d : Dialect σ} (h : x.Same y) :
    endsClause d x = endsClause d y := by
  rw [endsClause, endsClause, Token.isEnd, Token.isEnd, h.kind]

theorem endsClause_of_isEnd {d : Dialect σ} (h : x.isEnd = true) : endsClause d x = true := by
  rw [endsClause, h, Bool.true_or]

theorem agree_calls (k n : Nat) :
    (2 * n + 1 ≤ k → ∀ k', 2 * n + 1 ≤ k' → ∀ name,
      L.Agree n Eq (callWithin k name) (callWithin k' name)) ∧
    (2 * n + 2 ≤ k → ∀ k', 2 * n + 2 ≤ k' →
      L.Agree n Eq (argumentsWithin k) (argumentsWithin k')) ∧
    (2 * n + 1 ≤ k → ∀ k', 2 * n + 1 ≤ k' →
      L.Agree n Eq (argumentWithin k) (argumentWithin k')) := by
  induction k generalizing n with
  | zero => exact ⟨by omega, by omega, by omega⟩
  | succ k ih =>
    refine ⟨?call, ?arguments, ?argument⟩
    case call =>
      rintro hk (_ | k') hk' name
      · omega
      refine agree_expect (L.notMem_stops (by decide)) fun m _ hm _ _ _ _ => ?_
      have hm := hm (by decide)
      refine agree_eat_isSome (L.notMem_stops (by decide)) (fun _ _ _ => agree_pure rfl) ?_
      refine ((ih m).2.1 (by omega) k' (by omega)).bind ?_
      rintro as _ rfl
      exact agree_pure rfl
    case arguments =>
      rintro hk (_ | k') hk'
      · omega
      refine ((ih n).2.2 (by omega) k' (by omega)).bind ?_
      rintro a _ rfl
      refine agree_eat_isSome (L.notMem_stops (by decide)) (fun m _ hm => ?_) ?_
      · have hm := hm (by decide)
        refine ((ih m).2.1 (by omega) k' (by omega)).bind ?_
        rintro as _ rfl
        exact agree_pure rfl
      · exact agree_expect (L.notMem_stops (by decide)) fun _ _ _ _ _ _ _ => agree_pure rfl
    case argument =>
      rintro hk (_ | k') hk'
      · omega
      refine agree_peek (fun x y hsame hxy hx => ?_) ?_
      · have hname : ∀ m ≤ n, (x.kind ≠ .endOfInput → m < n) → x.kind ≠ .endOfInput →
            L.Agree m Eq
              (do if (← check .leftParen) then callWithin k x.text else return .field x.text)
              (do if (← check .leftParen) then callWithin k' x.text else return .field x.text) := by
          intro m _ hm hne
          have hm := hm hne
          refine agree_check (L.notMem_stops (by decide)) (fun x' y' _ hxy' _ => ?_) ?_
          · exact (ih m).1 (by omega) k' (by omega) x.text x' y' hxy'
          · exact fun _ _ hxy' _ => agree_pure rfl _ _ hxy'
        rw [← hsame.kind, ← hsame.text]
        split
        next hkind =>
          exact agreeAt_advance hx fun m hm hlt => hname m hm hlt (by rw [hkind]; decide)
        next hkind =>
          exact agreeAt_advance hx fun m hm hlt => hname m hm hlt (by rw [hkind]; decide)
        · exact agreeAt_advance hx fun _ _ _ => agree_pure rfl
        · exact agreeAt_advance hx fun _ _ _ => agree_pure rfl
        · refine agreeAt_advance hx fun _ _ _ => ?_
          refine agree_expect (L.notMem_stops (by decide)) fun _ _ _ u v huv _ => ?_
          exact agree_pure (by rw [huv.text])
        · exact agree_fail x y hxy
      · rintro x y (hx | hx) (hy | hy) hxy <;> rw [hx, hy] <;> exact agree_fail x y hxy

theorem agree_readCall (name : String) : L.Agree n Eq (readCall name) (readCall name) :=
  agree_remaining fun m k k' hk hk' => (agree_calls _ m).1 (by omega) _ (by omega) name

theorem agree_readColumnSource : L.Agree n Eq readColumnSource readColumnSource := by
  refine agree_peek (fun x y hsame hxy hx => ?_) ?_
  · rw [← hsame.kind, ← hsame.text]
    split
    · exact agreeAt_throw (.unsupported _ hxy)
    · exact agreeAt_advance hx fun _ _ _ => agree_pure rfl
    · refine agreeAt_advance hx fun _ _ _ => (agree_readCall x.text).bind ?_
      rintro call _ rfl
      exact agree_pure rfl
    · exact agree_fail x y hxy
  · rintro x y (hx | hx) (hy | hy) hxy <;> rw [hx, hy] <;> exact agree_fail x y hxy

theorem agree_withAlias (expected : String) (result : Option String → α) :
    L.Agree n Eq (withAlias expected result) (withAlias expected result) := by
  refine agree_eat_isSome (L.notMem_stops (by decide)) (fun _ _ _ => ?_) (agree_pure rfl)
  refine agree_expect (L.notMem_stops (by decide)) fun _ _ _ x y hxy _ => ?_
  exact agree_pure (by rw [hxy.text])

theorem agree_readColumn : L.Agree n Eq readColumn readColumn := by
  refine agree_readColumnSource.bind ?_
  rintro column _ rfl
  exact agree_withAlias "a column alias" (aliasColumn column)

theorem agree_columnsWithin (d : Dialect σ) (k : Nat) : ∀ n < k, ∀ k', n < k' →
    L.Agree n Eq (columnsWithin d k) (columnsWithin d k') := by
  induction k with
  | zero => exact fun n hn => absurd hn (Nat.not_lt_zero n)
  | succ k ih =>
    rintro n hn (_ | k') hk'
    · omega
    refine agree_readColumn.bind ?_
    rintro column _ rfl
    refine agree_eat_isSome (L.notMem_stops (by decide)) (fun m _ hm => ?_) ?_
    · have hm := hm (by decide)
      refine (ih m (by omega) k' (by omega)).bind ?_
      rintro columns _ rfl
      exact agree_pure rfl
    · refine agree_peek (fun x y hsame hxy _ => ?_) ?_
      · rw [endsClause_eq_of_same hsame]
        split
        · exact agree_pure rfl x y hxy
        · exact agree_fail x y hxy
      · intro x y hx hy hxy
        rw [endsClause_of_isEnd (by simpa [Token.isEnd] using hx),
          endsClause_of_isEnd (by simpa [Token.isEnd] using hy)]
        exact agree_pure rfl x y hxy

theorem agree_readSource : L.Agree n Eq readSource readSource := by
  refine agree_peek (fun x y hsame hxy hx => ?_) ?_
  · rw [← hsame.kind, ← hsame.text]
    split
    · exact agree_fail x y hxy
    · have halias {m : Nat} (arguments : List Node) : L.Agree m Eq _ _ :=
        agree_withAlias "a source alias" (Source.mk x.text arguments)
      refine agreeAt_advance hx fun m _ _ =>
        agree_check (L.notMem_stops (by decide)) (fun u v _ huv _ => ?_) fun u v huv _ =>
          halias [] u v huv
      refine (agree_readCall x.text).bind ?_ u v huv
      rintro node _ rfl
      cases node with
      | call _ arguments => exact halias arguments
      | field _ => exact halias []
      | number _ => exact halias []
      | text _ => exact halias []
  · rintro x y (hx | hx) (hy | hy) hxy <;> rw [hx, hy] <;> exact agree_fail x y hxy

theorem agree_readOperand : L.Agree n Eq readOperand readOperand := by
  refine agree_peek (fun x y hsame hxy hx => ?_) ?_
  · rw [← hsame.kind, ← hsame.text]
    split
    · exact agreeAt_advance hx fun _ _ _ => agree_pure rfl
    · exact agreeAt_advance hx fun _ _ _ => agree_pure rfl
    · exact agreeAt_advance hx fun _ _ _ => agree_pure rfl
    · refine agreeAt_advance hx fun _ _ _ => ?_
      refine agree_expect (L.notMem_stops (by decide)) fun _ _ _ u v huv _ => ?_
      exact agree_pure (by rw [huv.text])
    · exact agree_fail x y hxy
  · rintro x y (hx | hx) (hy | hy) hxy <;> rw [hx, hy] <;> exact agree_fail x y hxy

theorem agree_readPredicate : L.Agree n Eq readPredicate readPredicate := by
  refine agree_expect (L.notMem_stops (by decide)) fun _ _ _ field field' hfield _ => ?_
  refine agree_peek (fun x y hsame hxy hx => ?_) ?_
  · rw [← hsame.kind]
    split
    · exact agree_fail x y hxy
    · refine agreeAt_advance hx fun _ _ _ => agree_readOperand.bind ?_
      rintro operand _ rfl
      exact agree_pure (by rw [hfield.text])
  · rintro x y (hx | hx) (hy | hy) hxy <;> rw [hx, hy] <;> exact agree_fail x y hxy

theorem agree_predicatesWithin (d : Dialect σ) (k : Nat) : ∀ n < k, ∀ k', n < k' → ∀ r,
    L.Agree n Eq (predicatesWithin d k r) (predicatesWithin d k' r) := by
  induction k with
  | zero => exact fun n hn => absurd hn (Nat.not_lt_zero n)
  | succ k ih =>
    rintro n hn (_ | k') hk' r
    · omega
    refine agree_readPredicate.bind ?_
    rintro ⟨field, operator, operand⟩ _ rfl
    refine agree_peek (fun x y hsame hxy hx => ?_) ?_
    · rw [← hsame.kind, ← endsClause_eq_of_same hsame]
      split
      next hkind =>
        refine agreeAt_advance hx fun m _ hm => ?_
        have hm := hm (by rw [hkind]; decide)
        exact ih m (by omega) k' (by omega) _
      · exact agreeAt_throw (.unsupported _ hxy)
      · split
        · exact agree_pure rfl x y hxy
        · exact agree_fail x y hxy
    · intro x y hx hy hxy
      have hendx := endsClause_of_isEnd (d := d) (x := x) (by simpa [Token.isEnd] using hx)
      have hendy := endsClause_of_isEnd (d := d) (x := y) (by simpa [Token.isEnd] using hy)
      rw [hendx, hendy]
      rcases hx with hx | hx <;> rcases hy with hy | hy <;> rw [hx, hy] <;>
        exact agree_pure rfl x y hxy

theorem agree_readLimit : L.Agree n Eq readLimit readLimit := by
  refine agree_expect (L.notMem_stops (by decide)) fun _ _ _ x y hsame hxy => ?_
  rw [← hsame.text]
  split
  · exact agree_pure rfl
  · exact fun _ _ _ => agreeAt_throw (.unexpected _ hxy)

theorem agree_read (d : Dialect σ) (body : Body) (r : Request) :
    L.Agree n Eq (body.read d r) (body.read d r) := by
  refine agree_remaining fun m k k' hk hk' => ?_
  cases body with
  | columns =>
    refine (agree_columnsWithin d _ m (by omega) _ (by omega)).bind ?_
    rintro columns _ rfl
    exact agree_pure rfl
  | source =>
    refine agree_readSource.bind ?_
    rintro source _ rfl
    exact agree_pure rfl
  | predicates => exact agree_predicatesWithin d _ m (by omega) _ (by omega) r
  | limit =>
    refine agree_readLimit.bind ?_
    rintro limit _ rfl
    exact agree_pure rfl

/-! ### Statements -/

theorem agree_readClauses {d : Dialect σ} (clauses : List (Clause σ))
    (hclauses : ∀ c ∈ clauses, c.keyword ∉ L.stops) (r : Request) :
    L.Agree n Eq (readClauses d clauses r) (readClauses d clauses r) := by
  induction clauses generalizing n r with
  | nil => exact agree_pure rfl
  | cons clause clauses ih =>
    obtain ⟨hk, hclauses⟩ := List.forall_mem_cons.1 hclauses
    refine agree_check hk (fun x y _ _ hx => ?_) fun x y hxy _ => ?_
    · refine agreeAt_advance (hx ▸ hk) fun _ _ _ => (agree_read d _ r).bind ?_
      rintro r' _ rfl
      exact ih hclauses r'
    · cases clause.optional with
      | true => exact ih hclauses r x y hxy
      | false =>
        rintro s s' hs hn rfl rfl
        exact .noClause clause.keyword hxy

theorem agree_takeComments
    (hL : ∀ ⦃s s'⦄, L.stream s s' → L.stream { s with comments := [] } { s' with comments := [] }) :
    L.Agree n (fun _ _ => True) takeComments takeComments :=
  fun _ _ _ _ _ hs _ _ _ => ⟨trivial, List.suffix_refl _, hL hs⟩

/-- A statement is read from both, up to the comments, where no statement begins and no clause opens
with a stop and the likeness leaves out what was put aside. -/
theorem agree_readStatement {d : Dialect σ} (hstops : ∀ kind ∈ L.stops, d.statement? kind = none)
    (hkeyword : ∀ st ∈ d.statements, ∀ c ∈ st.clauses, c.keyword ∉ L.stops)
    (hL : ∀ ⦃s s'⦄, L.stream s s' → L.stream { s with comments := [] } { s' with comments := [] }) :
    L.Agree n Request.SameUpToComments (readStatement d) (readStatement d) := by
  rintro x y hxy s s' hs hn rfl rfl
  have hst : d.statement? s'.current.kind = d.statement? s.current.kind := by
    rcases L.same hxy with h | h
    · rw [h.kind]
    · rw [hstops _ h.1, hstops _ h.2]
  rw [readStatement, bind_peek, bind_peek, hst]
  cases hst : d.statement? s.current.kind with
  | none => exact .noStatement hxy
  | some st =>
    have hclauses := hkeyword st (List.mem_of_find?_eq_some hst)
    refine ((agree_readClauses st.clauses hclauses _).bind ?_).outcome hs hn
    rintro r _ rfl
    exact (agree_takeComments hL).bind fun _ _ _ => agree_pure rfl

/-! ### Streams that show the same -/

/-- A likeness of streams that show the same tokens, behind all ends. -/
def ofSame (stream : TokenStream → TokenStream → Prop) (size : List Token → Nat)
    (last : ∀ {s s'}, stream s s' → s.last.kind = .endOfInput ∧ s'.last.kind = .endOfInput)
    (current : ∀ {s s'}, stream s s' → s.current = s'.current)
    (tail : ∀ {s s'}, stream s s' → stream s.tail s'.tail)
    (size_lt : ∀ {s s' ts}, stream s s' → ts <:+ s.rest → ts ≠ s.rest → size ts < size s.rest)
    (size_le : ∀ {s s'}, stream s s' →
      size s.rest ≤ s.rest.length ∧ size s.rest ≤ s'.rest.length) : Likeness where
  stream := stream
  token x y := x = y
  stops := []
  size := size
  ends := List.nil_subset _
  last := last
  current := current
  same h := .inl (h ▸ ⟨rfl, rfl⟩)
  tail h _ := tail h
  size_lt := size_lt
  size_le := size_le

/-- What holds of a stream as long as it is read on, as a likeness of each stream with itself. -/
def ofInvariant (I : TokenStream → Prop) (last : ∀ s, I s → s.last.kind = .endOfInput)
    (tail : ∀ s, I s → I s.tail) : Likeness :=
  .ofSame (fun s s' => s = s' ∧ I s) List.length
    (fun h => ⟨last _ h.2, h.1 ▸ last _ h.2⟩)
    (fun h => congrArg TokenStream.current h.1)
    (fun h => ⟨congrArg TokenStream.tail h.1, tail _ h.2⟩)
    (fun _ hsuffix hne => Nat.lt_of_le_of_ne hsuffix.length_le (mt hsuffix.eq_of_length hne))
    fun h => ⟨Nat.le_refl _, Nat.le_of_eq (h.1 ▸ rfl)⟩

/-- A reader that agrees with itself keeps the invariant. -/
theorem Agree.invariant {I : TokenStream → Prop} {last : ∀ s, I s → s.last.kind = .endOfInput}
    {tail : ∀ s, I s → I s.tail} {R : α → α → Prop}
    (h : (ofInvariant I last tail).Agree s.rest.length R p p) (hs : I s) {a : α}
    (hp : p s = .ok a t) : I t := by
  obtain ⟨-, -, t', -, -, -, ht⟩ :=
    (h.outcome (s := s) ⟨rfl, hs⟩ (Nat.le_refl _)).exists_of_ok hp
  exact ht

end Likeness

end RowSieve

import RowSieve.Proofs.Request.Likeness

/-!
# Statements one after the other

What becomes of a stream when statements are read from it, up to the end of the input.  What is left
is `Behind` the stream that was given, and each statement with its end takes at least one token
(`TokenStream.rest_ne_of_statement`).  So the bound of the loop over the statements does not matter:
`TokenStream.Script` describes what the loop does without it.

The readers of ends and the loop keep any likeness of streams that are still alike behind an end
(`Likeness.outcome_statementsWithin`).
-/

namespace RowSieve

open TokenStream

variable {σ α : Type} {d : Dialect σ} {s s' t u : TokenStream} {r : Request} {rs : List Request}

namespace TokenStream

/-! ### What is left -/

/-- The stream is what is left of the other one. -/
structure Behind (s' s : TokenStream) : Prop where
  /-- The last token is the same. -/
  last : s'.last = s.last
  /-- Tokens have been taken from the front. -/
  rest : s'.rest <:+ s.rest

theorem behind_refl (s : TokenStream) : s.Behind s := ⟨rfl, List.suffix_refl _⟩

theorem Behind.trans {s'' : TokenStream} (h : s''.Behind s') (h' : s'.Behind s) : s''.Behind s :=
  ⟨h.last.trans h'.last, h.rest.trans h'.rest⟩

theorem Behind.fit (h : s'.Behind s) (hs : s.Fit) : s'.Fit := hs.of_suffix h.last h.rest

theorem behind_tail (s : TokenStream) : s.tail.Behind s :=
  ⟨rfl, (List.dropWhile_suffix _).trans (List.tail_suffix _)⟩

theorem Reads.behind {ts : List Token} (h : s.Reads ts s') : s'.Behind s := by
  induction ts generalizing s with
  | nil => exact h ▸ behind_refl s
  | cons t ts ih => exact (ih h.2).trans (behind_tail s)

/-- Between two states with the same tokens left, nothing is read. -/
theorem Behind.between (hu : u.Behind s) (ht : t.Behind u) (heq : t.rest = s.rest) :
    u.rest = s.rest ∧ u.current = s.current := by
  have hrest : u.rest = s.rest := hu.rest.eq_of_length
    (Nat.le_antisymm hu.rest.length_le (heq ▸ ht.rest.length_le))
  exact ⟨hrest, by rw [current, current, hrest, hu.last]⟩

end TokenStream

/-- Being left of a stream is an invariant. -/
def Likeness.behind (hlast : s.last.kind = .endOfInput) : Likeness :=
  .ofInvariant (fun u => u.Behind s) (fun _ hu => hu.last ▸ hlast)
    fun u hu => (behind_tail u).trans hu

theorem TokenStream.behind_of_agree {R : α → α → Prop} {p : Parse α} {a : α}
    (hlast : s.last.kind = .endOfInput)
    (hp : (Likeness.behind hlast).Agree s.rest.length R p p) (h : p s = .ok a t) : t.Behind s :=
  hp.invariant (behind_refl s) h

namespace TokenStream

theorem behind_of_readStatement (hlast : s.last.kind = .endOfInput)
    (h : readStatement d s = .ok r t) : t.Behind s := by
  refine behind_of_agree hlast (Likeness.agree_readStatement ?_ ?_ ?_) h
  · exact fun kind hkind => absurd hkind List.not_mem_nil
  · exact fun _ _ _ _ => List.not_mem_nil
  · exact fun u u' hu => ⟨by rw [hu.1], ⟨hu.2.last, hu.2.rest⟩⟩

/-! ### Ends of statements -/

theorem isEnd_of_kind {x : Token} (h : x.kind = .endOfInput) : x.isEnd = true := by
  simp [Token.isEnd, h]

theorem skipToEnd_of_isEnd (h : s.current.isEnd = true) (k : Nat) : skipToEnd k s = .ok () s := by
  cases k with
  | zero => rfl
  | succ k =>
    rw [skipToEnd, bind_peek, h]
    rfl

/-- Passing over tokens leads to an end. -/
theorem isEnd_current_of_skipToEnd (hlast : s.last.kind = .endOfInput) {n : Nat}
    (hn : s.rest.length ≤ n) (h : skipToEnd n s = .ok () t) : t.current.isEnd = true := by
  induction n generalizing s with
  | zero =>
    cases h
    rw [current, List.length_eq_zero_iff.1 (Nat.le_zero.1 hn)]
    exact isEnd_of_kind hlast
  | succ n ih =>
    cases hend : s.current.isEnd with
    | true =>
      rw [skipToEnd_of_isEnd hend] at h
      cases h
      exact hend
    | false =>
      have hne := rest_ne_nil_of_kind_ne hlast fun hk => by simp [Token.isEnd, hk] at hend
      have hlt := length_tail_lt hne
      rw [skipToEnd, bind_peek, hend] at h
      exact ih (s := s.tail) hlast (by omega) h

theorem finishStatement_of_isEnd (h : s.current.isEnd = true) :
    finishStatement d s = (do let _ ← eat .endOfStatement : Parse Unit) s := by
  rw [finishStatement, bind_peek, h]
  rfl

theorem finishStatement_of_lenient (hd : d.strict = false) (h : s.current.isEnd = false) :
    finishStatement d s =
      (do skipToEnd s.rest.length; let _ ← eat .endOfStatement : Parse Unit) s := by
  rw [finishStatement, bind_peek, h, hd]
  rfl

theorem finishStatement_of_strict (hd : d.strict = true) (h : s.current.isEnd = false) :
    finishStatement d s = .error (.trailing s.current) s := by
  rw [finishStatement, bind_peek, h, hd]
  rfl

end TokenStream

namespace Likeness

variable {L : Likeness} {n : Nat}

theorem isEnd_current (hs : L.stream s s') : s'.current.isEnd = s.current.isEnd := by
  rcases L.same (L.current hs) with h | ⟨hx, hy⟩
  · rw [Token.isEnd, Token.isEnd, h.kind]
  · have hend {x : Token} (h : x.kind ∈ L.stops) : x.isEnd = true := by
      simpa [Token.isEnd] using L.ends h
    rw [hend hx, hend hy]

theorem agree_skipToEnd (k : Nat) : ∀ n ≤ k, ∀ k', n ≤ k' →
    L.Agree n Eq (skipToEnd k) (skipToEnd k') := by
  -- Where nothing is to be read, both are at an end, whatever the bounds.
  have hzero (k k' : Nat) : L.Agree 0 Eq (skipToEnd k) (skipToEnd k') := by
    rintro x y - s s' hs hn rfl rfl
    have hend : s.current.isEnd = true := by
      by_contra hend
      have hlt := size_tail_lt hs fun hk => hend (isEnd_of_kind hk)
      omega
    rw [skipToEnd_of_isEnd hend, skipToEnd_of_isEnd ((isEnd_current hs).trans hend)]
    exact ⟨rfl, List.suffix_refl _, hs⟩
  induction k with
  | zero =>
    intro n hn k' _
    obtain rfl := Nat.le_zero.1 hn
    exact hzero 0 k'
  | succ k ih =>
    rintro n hn (_ | k') hk'
    · obtain rfl := Nat.le_zero.1 hk'
      exact hzero _ 0
    · refine agree_peek (fun x y hsame hxy hx => ?_) fun x y hx hy hxy => ?_
      · have hend : y.isEnd = x.isEnd := by rw [Token.isEnd, Token.isEnd, hsame.kind]
        rw [hend]
        split
        · exact agree_pure rfl x y hxy
        next h =>
          refine agreeAt_advance hx fun m _ hm => ?_
          have hm := hm fun hk => h (isEnd_of_kind hk)
          exact ih m (by omega) k' (by omega)
      · rw [show x.isEnd = true by simpa [Token.isEnd] using hx,
          show y.isEnd = true by simpa [Token.isEnd] using hy]
        exact agree_pure rfl x y hxy

theorem agree_eat_endOfStatement (hk : .endOfStatement ∉ L.stops) :
    L.Agree n Eq (do let _ ← eat .endOfStatement : Parse Unit)
      (do let _ ← eat .endOfStatement : Parse Unit) :=
  agree_eat hk (fun _ _ _ _ _ _ _ => agree_pure rfl) (agree_pure rfl)

theorem agree_finishStatement (hk : .endOfStatement ∉ L.stops) :
    L.Agree n Eq (finishStatement d) (finishStatement d) := by
  rintro x y hxy s s' hs hn rfl rfl
  cases hend : s.current.isEnd with
  | true =>
    rw [finishStatement_of_isEnd hend, finishStatement_of_isEnd ((isEnd_current hs).trans hend)]
    exact (agree_eat_endOfStatement hk).outcome hs hn
  | false =>
    have hend' := (isEnd_current hs).trans hend
    cases hd : d.strict with
    | true =>
      rw [finishStatement_of_strict hd hend, finishStatement_of_strict hd hend']
      exact .trailing hxy
    | false =>
      rw [finishStatement_of_lenient hd hend, finishStatement_of_lenient hd hend']
      have hskip := agree_skipToEnd (L := L) _ _ (L.size_le hs).1 _ (L.size_le hs).2
      exact (hskip.bind fun _ _ _ => agree_eat_endOfStatement hk).outcome hs (Nat.le_refl _)

end Likeness

namespace TokenStream

theorem behind_of_finishStatement (hlast : s.last.kind = .endOfInput)
    (h : finishStatement d s = .ok () t) : t.Behind s :=
  behind_of_agree hlast (Likeness.agree_finishStatement List.not_mem_nil) h

/-- What stands behind a statement is passed over, or it is an error. -/
theorem rest_ne_of_finishStatement (hlast : s.last.kind = .endOfInput)
    (hend : s.current.isEnd = false) (h : finishStatement d s = .ok () t) : t.rest ≠ s.rest := by
  intro heq
  cases hd : d.strict with
  | true =>
    rw [finishStatement_of_strict hd hend] at h
    cases h
  | false =>
    rw [finishStatement_of_lenient hd hend] at h
    obtain ⟨_, u, hskip, heat⟩ := bind_eq_ok.1 h
    have hu : u.Behind s := behind_of_agree hlast
      (Likeness.agree_skipToEnd _ _ (Nat.le_refl _) _ (Nat.le_refl _)) hskip
    have ht : t.Behind u := behind_of_agree (hu.last ▸ hlast)
      (Likeness.agree_eat_endOfStatement List.not_mem_nil) heat
    rw [← (hu.between ht heq).2, isEnd_current_of_skipToEnd hlast (Nat.le_refl _) hskip] at hend
    cases hend

/-- A statement and its end take at least one token. -/
theorem rest_ne_of_statement (hlast : s.last.kind = .endOfInput) (hend : s.current.isEnd = false)
    (hread : readStatement d s = .ok r t) (hfinish : finishStatement d t = .ok () u) :
    u.rest ≠ s.rest := by
  intro heq
  have ht := behind_of_readStatement hlast hread
  have hu := behind_of_finishStatement (ht.last ▸ hlast) hfinish
  obtain ⟨hrest, hcurrent⟩ := ht.between hu heq
  exact rest_ne_of_finishStatement (ht.last ▸ hlast) (hcurrent ▸ hend) hfinish
    (heq.trans hrest.symm)

/-! ### Semicolons -/

theorem skipSemicolons_of_kind_ne (h : s.current.kind ≠ .endOfStatement) (n : Nat) :
    skipSemicolons n s = .ok () s := by
  cases n with
  | zero => rfl
  | succ n =>
    rw [skipSemicolons, bind_eat_of_kind_ne h]
    rfl

theorem rest_ne_nil_of_kind (hlast : s.last.kind = .endOfInput)
    (hk : s.current.kind = .endOfStatement) : s.rest ≠ [] :=
  rest_ne_nil_of_kind_ne hlast (by rw [hk]; decide)

/-- Any bound that is large enough passes over the same semicolons. -/
theorem skipSemicolons_eq (hlast : s.last.kind = .endOfInput) {n m : Nat}
    (hn : s.rest.length ≤ n) (hm : s.rest.length ≤ m) :
    skipSemicolons n s = skipSemicolons m s := by
  induction n generalizing s m with
  | zero =>
    have hk : s.current.kind ≠ .endOfStatement := fun hk =>
      rest_ne_nil_of_kind hlast hk (List.length_eq_zero_iff.1 (by omega))
    rw [skipSemicolons_of_kind_ne hk, skipSemicolons_of_kind_ne hk]
  | succ n ih =>
    by_cases hk : s.current.kind = .endOfStatement
    · have hlt := length_tail_lt (rest_ne_nil_of_kind hlast hk)
      obtain ⟨m, rfl⟩ : ∃ m', m = m' + 1 := Nat.exists_eq_add_one.2 (by omega)
      rw [skipSemicolons, skipSemicolons, bind_eat_of_kind hk, bind_eat_of_kind hk]
      exact ih (s := s.tail) hlast (by omega) (by omega)
    · rw [skipSemicolons_of_kind_ne hk, skipSemicolons_of_kind_ne hk]

theorem bind_congr_left {α β : Type} {p q : Parse α} (h : p s = q s') (f : α → Parse β) :
    (p >>= f) s = (q >>= f) s' := by
  change EStateM.bind p f s = EStateM.bind q f s'
  unfold EStateM.bind
  rw [h]

/-- A semicolon in front of statements does not matter. -/
theorem statementsWithin_tail (hlast : s.last.kind = .endOfInput)
    (hk : s.current.kind = .endOfStatement) (n : Nat) :
    statementsWithin d (n + 1) s = statementsWithin d (n + 1) s.tail := by
  have hlt := length_tail_lt (rest_ne_nil_of_kind hlast hk)
  have hskip : skipSemicolons s.rest.length s = skipSemicolons s.tail.rest.length s.tail := by
    obtain ⟨l, hl⟩ : ∃ l, s.rest.length = l + 1 := Nat.exists_eq_add_one.2 (by omega)
    rw [hl, skipSemicolons, bind_eat_of_kind hk]
    exact skipSemicolons_eq (s := s.tail) hlast (by omega) (Nat.le_refl _)
  rw [statementsWithin, bind_remaining, bind_remaining]
  exact bind_congr_left hskip _

theorem statementsWithin_of_end (hk : s.current.kind = .endOfInput) (n : Nat) :
    statementsWithin d (n + 1) s = .ok [] s := by
  have hskip := skipSemicolons_of_kind_ne (s := s) (by rw [hk]; decide) s.rest.length
  rw [statementsWithin, bind_remaining, bind_of_ok hskip, bind_check, if_pos (decide_eq_true hk)]
  rfl

theorem statementsWithin_of_statement (hstatement : s.current.kind ≠ .endOfStatement)
    (hinput : s.current.kind ≠ .endOfInput) (n : Nat) :
    statementsWithin d (n + 1) s =
      (do
        let r ← readStatement d
        finishStatement d
        return r :: (← statementsWithin d n) : Parse (List Request)) s := by
  rw [statementsWithin, bind_remaining, bind_of_ok (skipSemicolons_of_kind_ne hstatement _),
    bind_check, if_neg (by simpa using hinput)]

/-! ### Statements -/

/-- Statements are read and finished between two states of a stream, one after the other, with
semicolons between them. -/
inductive Script (d : Dialect σ) : TokenStream → List Request → TokenStream → Prop where
  /-- Nothing is read. -/
  | nil (s : TokenStream) : Script d s [] s
  /-- A semicolon comes first. -/
  | semicolon {s t : TokenStream} {rs : List Request} :
    s.current.kind = .endOfStatement → Script d s.tail rs t → Script d s rs t
  /-- A statement comes first. -/
  | cons {s s₁ s₂ t : TokenStream} {r : Request} {rs : List Request} :
    readStatement d s = .ok r s₁ → finishStatement d s₁ = .ok () s₂ → Script d s₂ rs t →
      Script d s (r :: rs) t

/-- The loop over statements makes a script, whatever its bound. -/
theorem script_of_statementsWithin (hlast : s.last.kind = .endOfInput) {k : Nat}
    (h : statementsWithin d k s = .ok rs t) : Script d s rs t := by
  induction k generalizing s rs with
  | zero =>
    obtain ⟨rfl, rfl⟩ := pure_eq_ok.1 h
    exact .nil _
  | succ k ih =>
    -- Semicolons come first, and the bound stays the same.
    induction hn : s.rest.length using Nat.strongRecOn generalizing s with
    | ind n semicolons =>
      by_cases hsemicolon : s.current.kind = .endOfStatement
      · have hlt := length_tail_lt (rest_ne_nil_of_kind hlast hsemicolon)
        rw [statementsWithin_tail hlast hsemicolon] at h
        exact .semicolon hsemicolon (semicolons _ (hn ▸ hlt) (s := s.tail) hlast h rfl)
      · by_cases hend : s.current.kind = .endOfInput
        · rw [statementsWithin_of_end hend] at h
          cases h
          exact .nil _
        · rw [statementsWithin_of_statement hsemicolon hend] at h
          obtain ⟨r, s₁, hread, h⟩ := bind_eq_ok.1 h
          obtain ⟨_, s₂, hfinish, h⟩ := bind_eq_ok.1 h
          obtain ⟨rs, s₃, hrest, h⟩ := bind_eq_ok.1 h
          obtain ⟨rfl, rfl⟩ := pure_eq_ok.1 h
          have hs₁ := (behind_of_readStatement hlast hread).last ▸ hlast
          have hs₂ := (behind_of_finishStatement hs₁ hfinish).last ▸ hs₁
          exact .cons hread hfinish (ih hs₂ hrest)

/-- Before the last statement of a script, there is a script. -/
theorem Script.exists_last (h : Script d s (rs ++ [r]) t) :
    ∃ s₁ s₂, Script d s rs s₁ ∧ readStatement d s₁ = .ok r s₂ := by
  generalize hrs : rs ++ [r] = all at h
  induction h generalizing rs with
  | nil => simp at hrs
  | semicolon hk _ ih =>
    obtain ⟨s₁, s₂, hscript, hread⟩ := ih hrs
    exact ⟨s₁, s₂, .semicolon hk hscript, hread⟩
  | cons hread hfinish hscript ih =>
    cases rs with
    | nil =>
      cases hrs
      exact ⟨_, _, .nil _, hread⟩
    | cons r' rs =>
      cases hrs
      obtain ⟨s₁, s₂, hscript', hread'⟩ := ih rfl
      exact ⟨s₁, s₂, .cons hread hfinish hscript', hread'⟩

/-- Every request of a script is read from what is left of the script. -/
theorem Script.exists_behind_of_mem (h : Script d s rs t) (hlast : s.last.kind = .endOfInput) :
    ∀ r ∈ rs, ∃ s₁ s₂, s₁.Behind s ∧ readStatement d s₁ = .ok r s₂ := by
  induction h with
  | nil => exact fun _ hr => absurd hr List.not_mem_nil
  | @semicolon s t rs _ _ ih =>
    intro r hr
    obtain ⟨s₁, s₂, hs₁, hread⟩ := ih hlast r hr
    exact ⟨s₁, s₂, hs₁.trans (behind_tail s), hread⟩
  | cons hread hfinish _ ih =>
    have hs₁ := behind_of_readStatement hlast hread
    have hs₂ := (behind_of_finishStatement (hs₁.last ▸ hlast) hfinish).trans hs₁
    refine List.forall_mem_cons.2 ⟨⟨_, _, behind_refl _, hread⟩, fun r hr => ?_⟩
    obtain ⟨s₃, s₄, hs₃, hread'⟩ := ih (hs₂.last ▸ hlast) r hr
    exact ⟨s₃, s₄, hs₃.trans hs₂, hread'⟩

end TokenStream

namespace Likeness

variable {L : Likeness}

/-- Scripts are read from both, up to the comments. -/
theorem outcome_statementsWithin (hstops : L.stops = [])
    (hL : ∀ ⦃s s'⦄, L.stream s s' → L.stream { s with comments := [] } { s' with comments := [] })
    {k k' : Nat} (hs : L.stream s s') (hk : L.size s.rest < k) (hk' : L.size s.rest < k') :
    L.Outcome (List.Forall₂ Request.SameUpToComments) s (statementsWithin d k s)
      (statementsWithin d k' s') := by
  induction hn : L.size s.rest using Nat.strongRecOn generalizing s s' k k' with
  | ind n ih =>
    obtain ⟨k, rfl⟩ : ∃ l, k = l + 1 := Nat.exists_eq_add_one.2 (by omega)
    obtain ⟨k', rfl⟩ : ∃ l, k' = l + 1 := Nat.exists_eq_add_one.2 (by omega)
    have hsame : s.current.Same s'.current :=
      (L.same (L.current hs)).resolve_right fun h => by simp [hstops] at h
    have hstop (kind : Kind) : kind ∉ L.stops := by simp [hstops]
    by_cases hsemicolon : s.current.kind = .endOfStatement
    · rw [statementsWithin_tail (L.last hs).1 hsemicolon,
        statementsWithin_tail (L.last hs).2 (hsame.kind ▸ hsemicolon)]
      have hlt := size_tail_lt hs (by rw [hsemicolon]; decide)
      exact (ih _ (hn ▸ hlt) (L.tail hs (hstop _)) (by omega) (by omega) rfl).of_suffix
        s.rest_tail_suffix
    · by_cases hfinish : s.current.kind = .endOfInput
      · rw [statementsWithin_of_end hfinish, statementsWithin_of_end (hsame.kind ▸ hfinish)]
        exact ⟨.nil, List.suffix_refl _, hs⟩
      · have hend : s.current.isEnd = false := by simp [Token.isEnd, hsemicolon, hfinish]
        rw [statementsWithin_of_statement hsemicolon hfinish,
          statementsWithin_of_statement (hsame.kind ▸ hsemicolon) (hsame.kind ▸ hfinish)]
        have hread := agree_readStatement (L := L) (n := L.size s.rest) (d := d)
          (fun kind hkind => absurd hkind (hstop kind)) (fun _ _ _ _ => hstop _) hL
        refine (hread.outcome hs (Nat.le_refl _)).bind fun r t r' t' hr _ hrr hsuffix ht => ?_
        refine ((agree_finishStatement (hstop _)).outcome ht (Nat.le_refl _)).bind
          fun _ u _ u' hu _ _ hsuffix' hu' => ?_
        have hne := rest_ne_of_statement (L.last hs).1 hend hr hu
        have hlt := L.size_lt hs (hsuffix'.trans hsuffix) hne
        refine (ih _ (hn ▸ hlt) hu' (by omega) (by omega) rfl).bind
          fun rs _ rs' _ _ _ hrs _ hv => ?_
        exact ⟨.cons hrr hrs, List.suffix_refl _, hv⟩

end Likeness

end RowSieve

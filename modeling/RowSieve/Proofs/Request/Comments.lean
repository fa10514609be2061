import RowSieve.Proofs.Request.Scripts

/-!
# Comments in scripts

Comments between tokens do not change how a script is read.  A stream and the same without comments
are alike (`Likeness.comments`), and so the script without comments makes the same requests, up to
the comments that they collect, or the same error.

The comments that requests collect are those of the source, in order: a statement takes those that
it passes and those that were put aside before it (`TokenStream.Settled.exists_own`).  None is
missing up to the end of the last statement (`allStatements_comments`).  Where a script is lenient,
comments among the tokens that are passed over behind a statement go to the next one.
-/

namespace RowSieve

open TokenStream

variable {σ : Type} {d : Dialect σ} {s s' t u : TokenStream} {r : Request} {rs : List Request}

/-! ### Streams without comments -/

namespace TokenStream

/-- The next token is no comment. -/
structure Settled (s : TokenStream) : Prop where
  /-- After the last token, the end of the input is shown. -/
  last : s.last.kind = .endOfInput
  /-- Comments at the front have been put aside. -/
  front : isComment s.current = false

theorem settled_settle (hlast : s.last.kind = .endOfInput) : s.settle.Settled := by
  refine ⟨hlast, ?_⟩
  rw [current, rest_settle]
  cases hrest : s.rest.dropWhile isComment with
  | nil => simp [isComment, hlast]
  | cons x xs => simpa [hrest] using List.head?_dropWhile_not isComment s.rest

theorem Settled.tail (hs : s.Settled) : s.tail.Settled := settled_settle hs.last

/-- Either nothing is left, or the next token and others are. -/
theorem Settled.rest_eq (hs : s.Settled) :
    s.rest = [] ∨ ∃ x xs, s.rest = x :: xs ∧ isComment x = false := by
  cases hrest : s.rest with
  | nil => exact .inl rfl
  | cons x xs => exact .inr ⟨x, xs, rfl, by simpa [current, hrest] using hs.front⟩

/-- The stream of the same tokens without the comments. -/
def bare (s : TokenStream) : TokenStream := ⟨s.rest.filter fun t => !isComment t, [], s.last⟩

theorem filter_dropWhile_isComment (ts : List Token) :
    (ts.dropWhile isComment).filter (fun t => !isComment t) = ts.filter fun t => !isComment t := by
  induction ts with
  | nil => rfl
  | cons t ts ih =>
    by_cases ht : isComment t
    · rw [List.dropWhile_cons_of_pos ht, ih, List.filter_cons_of_neg (by simp [ht])]
    · rw [List.dropWhile_cons_of_neg ht]

theorem bare_settle : s.bare.settle = s.settle.bare := by
  have hnone : ∀ t ∈ s.bare.rest, ¬ isComment t = true := by
    intro t ht
    simpa using (List.mem_filter.1 ht).2
  have hdrop : s.bare.rest.dropWhile isComment = s.bare.rest :=
    List.dropWhile_eq_self_iff.2 fun _ => hnone _ (List.getElem_mem _)
  have htake : s.bare.rest.takeWhile isComment = [] :=
    List.takeWhile_eq_nil_iff.2 fun _ => hnone _ (List.get_mem _ _)
  rw [settle, hdrop, htake, bare, bare, rest_settle, filter_dropWhile_isComment]
  rfl

theorem Settled.current_bare (hs : s.Settled) : s.bare.current = s.current := by
  rcases hs.rest_eq with hrest | ⟨x, xs, hrest, hx⟩
  · simp [bare, current, hrest]
  · simp [bare, current, hrest, hx]

theorem Settled.tail_bare (hs : s.Settled) : s.bare.tail = s.tail.bare := by
  have hrest : s.bare.rest.tail = s.rest.tail.filter fun t => !isComment t := by
    rcases hs.rest_eq with hrest | ⟨x, xs, hrest, hx⟩
    · simp [bare, hrest]
    · simp [bare, hrest, hx]
  rw [TokenStream.tail, hrest]
  exact bare_settle (s := { s with rest := s.rest.tail })

/-- The number of tokens that are no comments goes down when tokens are taken from the front. -/
theorem Settled.countP_lt (hs : s.Settled) {ts : List Token} (hsuffix : ts <:+ s.rest)
    (hne : ts ≠ s.rest) :
    ts.countP (fun t => !isComment t) < s.rest.countP fun t => !isComment t := by
  rcases hs.rest_eq with hrest | ⟨x, xs, hrest, hx⟩
  · rw [hrest, List.suffix_nil] at hsuffix
    exact absurd (hsuffix.trans hrest.symm) hne
  · rw [hrest] at hsuffix hne ⊢
    have hle := ((List.suffix_cons_iff.1 hsuffix).resolve_left hne).sublist.countP_le
      (p := fun t => !isComment t)
    rw [List.countP_cons_of_pos (by simp [hx])]
    omega

theorem length_rest_bare (s : TokenStream) :
    s.bare.rest.length = s.rest.countP fun t => !isComment t :=
  List.countP_eq_length_filter.symm

end TokenStream

/-- A stream and the same without comments are alike. -/
def Likeness.comments : Likeness :=
  .ofSame (fun s s' => s.Settled ∧ s' = s.bare) (fun ts => ts.countP fun t => !isComment t)
    (fun h => ⟨h.1.last, h.2 ▸ h.1.last⟩)
    (fun h => h.2 ▸ h.1.current_bare.symm)
    (fun h => ⟨h.1.tail, h.2 ▸ h.1.tail_bare⟩)
    (fun h hsuffix hne => h.1.countP_lt hsuffix hne)
    fun h => ⟨List.countP_le_length, h.2 ▸ Nat.le_of_eq (length_rest_bare _).symm⟩

/-! ### No comment is lost -/

namespace TokenStream

/-- The texts of the comments among tokens, in order. -/
def commentTexts (tokens : List Token) : List String := (tokens.filter isComment).map (·.text)

theorem commentTexts_append (ts us : List Token) :
    commentTexts (ts ++ us) = commentTexts ts ++ commentTexts us := by
  rw [commentTexts, List.filter_append, List.map_append]
  rfl

/-- So many tokens are passed between two states of a stream, and the comments among them are put
aside. -/
structure Passes (s : TokenStream) (passed : List Token) (t : TokenStream) : Prop where
  /-- The tokens are taken from the front. -/
  rest : s.rest = passed ++ t.rest
  /-- Their comments come last. -/
  comments : t.comments = s.comments ++ commentTexts passed

theorem passes_refl (s : TokenStream) : s.Passes [] s := ⟨rfl, (List.append_nil _).symm⟩

theorem Passes.trans {ts us : List Token} (h : s.Passes ts t) (h' : t.Passes us u) :
    s.Passes (ts ++ us) u :=
  ⟨by rw [h.rest, h'.rest, List.append_assoc],
    by rw [h'.comments, h.comments, commentTexts_append, List.append_assoc]⟩

theorem passes_settle (s : TokenStream) : s.Passes (s.rest.takeWhile isComment) s.settle := by
  refine ⟨List.takeWhile_append_dropWhile.symm, ?_⟩
  have hall : (s.rest.takeWhile isComment).filter isComment = s.rest.takeWhile isComment :=
    List.filter_eq_self.2 fun _ ht => List.mem_takeWhile_imp ht
  rw [commentTexts, hall]
  rfl

theorem Settled.passes_tail (hs : s.Settled) :
    s.Passes (s.rest.take 1 ++ s.rest.tail.takeWhile isComment) s.tail := by
  refine Passes.trans (t := { s with rest := s.rest.tail }) ?_ (passes_settle _)
  rcases hs.rest_eq with hrest | ⟨x, xs, hrest, hx⟩
  · exact ⟨by simp [hrest], by simp [commentTexts, hrest]⟩
  · exact ⟨by simp [hrest], by simp [commentTexts, hrest, hx]⟩

/-- What a reader that any likeness allows for passes. -/
theorem Settled.exists_passes {α : Type} {R : α → α → Prop} {p : Parse α} (hs : s.Settled)
    (hp : ∀ L : Likeness, L.stops = [] → ∀ n, L.Agree n R p p) {a : α} (h : p s = .ok a t) :
    t.Settled ∧ ∃ passed, s.Passes passed t := by
  have hagree := hp (.ofInvariant (fun u => u.Settled ∧ ∃ passed, s.Passes passed u)
    (fun _ hu => hu.1.last) fun _ hu => ⟨hu.1.tail, _, hu.2.choose_spec.trans hu.1.passes_tail⟩) rfl
  exact (hagree s.rest.length).invariant ⟨hs, [], passes_refl s⟩ h

/-- A statement takes the comments that were put aside and those that it passes. -/
theorem Settled.exists_own (hs : s.Settled) (h : readStatement d s = .ok r t) :
    t.Settled ∧ t.comments = [] ∧
      ∃ own, s.rest = own ++ t.rest ∧ r.comments = s.comments ++ commentTexts own := by
  simp only [readStatement, bind_peek] at h
  cases hst : d.statement? s.current.kind with
  | none =>
    rw [hst] at h
    exact absurd h throw_ne_ok
  | some st =>
    rw [hst] at h
    obtain ⟨r', u, hr, h⟩ := bind_eq_ok.1 h
    obtain ⟨hu, own, hown⟩ := hs.exists_passes (R := Eq)
      (fun L hL n => Likeness.agree_readClauses st.clauses (by simp [hL]) _) hr
    cases h
    exact ⟨⟨hu.last, hu.front⟩, rfl, own, hown.rest, hown.comments⟩

theorem Settled.of_finishStatement (hs : s.Settled) (h : finishStatement d s = .ok () t) :
    t.Settled ∧ ∃ passed, s.Passes passed t :=
  hs.exists_passes (R := Eq) (fun _ hL _ => Likeness.agree_finishStatement (by simp [hL])) h

/-- The comments of a script are those that are passed, or they are still put aside. -/
theorem Script.exists_passed (h : Script d s rs t) (hs : s.Settled) :
    t.Settled ∧ ∃ passed, s.rest = passed ++ t.rest ∧
      rs.flatMap (·.comments) ++ t.comments = s.comments ++ commentTexts passed := by
  induction h with
  | nil s => exact ⟨hs, [], rfl, (List.append_nil _).symm⟩
  | semicolon _ _ ih =>
    obtain ⟨ht, passed, hrest, hcomments⟩ := ih hs.tail
    have htail := hs.passes_tail
    refine ⟨ht, _, by rw [htail.rest, hrest, ← List.append_assoc], ?_⟩
    rw [hcomments, htail.comments, List.append_assoc, ← commentTexts_append]
  | cons hread hfinish _ ih =>
    obtain ⟨hs₁, hnone, own, hown, howncomments⟩ := hs.exists_own hread
    obtain ⟨hs₂, skipped, hskipped⟩ := hs₁.of_finishStatement hfinish
    obtain ⟨ht, passed, hrest, hcomments⟩ := ih hs₂
    refine ⟨ht, own ++ (skipped ++ passed), ?_, ?_⟩
    · rw [hown, hskipped.rest, hrest, List.append_assoc, List.append_assoc]
    · rw [List.flatMap_cons, List.append_assoc, hcomments, howncomments, hskipped.comments, hnone,
        commentTexts_append, commentTexts_append, List.append_assoc, List.nil_append]

/-- What a script of a list of tokens has come to. -/
theorem Script.exists_earlier {tokens : List Token} {finish : Nat}
    (h : Script d (ofTokensUpTo tokens finish) rs t) :
    t.Settled ∧ ∃ earlier, tokens = earlier ++ t.rest ∧
      rs.flatMap (·.comments) ++ t.comments = commentTexts earlier := by
  obtain ⟨front, hfront⟩ : ∃ front, Passes ⟨tokens, [], ⟨.endOfInput, "", finish⟩⟩ front
      (ofTokensUpTo tokens finish) := ⟨_, passes_settle _⟩
  obtain ⟨ht, passed, hrest, hcomments⟩ := h.exists_passed (settled_settle rfl)
  refine ⟨ht, front ++ passed, ?_, ?_⟩
  · rw [List.append_assoc, ← hrest]
    exact hfront.rest
  · rw [hcomments, commentTexts_append, hfront.comments, List.nil_append]

theorem exists_script {tokens : List Token} {finish : Nat}
    (h : (allStatements d).eval (ofTokensUpTo tokens finish) = .ok rs) :
    ∃ t, Script d (ofTokensUpTo tokens finish) rs t := by
  obtain ⟨t, ht⟩ := eval_eq_ok.1 h
  rw [allStatements, bind_remaining] at ht
  exact ⟨t, script_of_statementsWithin rfl ht⟩

/-- The comments of a script are the first ones of its source. -/
theorem comments_isPrefix {tokens : List Token} {finish : Nat}
    (h : (allStatements d).eval (ofTokensUpTo tokens finish) = .ok rs) :
    rs.flatMap (·.comments) <+: commentTexts tokens := by
  obtain ⟨t, hscript⟩ := exists_script h
  obtain ⟨-, earlier, htokens, hcomments⟩ := hscript.exists_earlier
  refine ⟨t.comments ++ commentTexts t.rest, ?_⟩
  rw [← List.append_assoc, hcomments, ← commentTexts_append, ← htokens]

end TokenStream

/-- The request without its comments. -/
def Request.withoutComments (r : Request) : Request := { r with comments := [] }

theorem eq_map_withoutComments {rs' : List Request}
    (h : List.Forall₂ Request.SameUpToComments rs rs') (hnone : rs'.flatMap (·.comments) = []) :
    rs' = rs.map Request.withoutComments := by
  induction h with
  | nil => rfl
  | @cons r r' rs rs' hr _ ih =>
    rw [List.flatMap_cons, List.append_eq_nil_iff] at hnone
    have hr' : r' = r.withoutComments := by
      rw [Request.withoutComments, show _ = _ from hr, ← hnone.1]
    rw [List.map_cons, ← hr', ← ih hnone.2]

/-- Comments make no difference. -/
theorem eval_filter_isComment (d : Dialect σ) (tokens : List Token) (finish : Nat) :
    (allStatements d).eval (ofTokensUpTo (tokens.filter fun t => !isComment t) finish) =
      ((allStatements d).eval (ofTokensUpTo tokens finish)).map
        (·.map Request.withoutComments) := by
  have hbare : ofTokensUpTo (tokens.filter fun t => !isComment t) finish =
      (ofTokensUpTo tokens finish).bare :=
    bare_settle (s := ⟨tokens, [], ⟨.endOfInput, "", finish⟩⟩)
  have hlike : Likeness.comments.stream (ofTokensUpTo tokens finish)
      (ofTokensUpTo (tokens.filter fun t => !isComment t) finish) := ⟨settled_settle rfl, hbare⟩
  have hsize := Likeness.comments.size_le hlike
  have houtcome : Likeness.comments.Outcome (List.Forall₂ Request.SameUpToComments) _
      (allStatements d (ofTokensUpTo tokens finish))
      (allStatements d (ofTokensUpTo (tokens.filter fun t => !isComment t) finish)) :=
    Likeness.outcome_statementsWithin (L := .comments) rfl
      (fun _ _ ⟨hs, hs'⟩ => ⟨⟨hs.last, hs.front⟩, by rw [hs']; rfl⟩) hlike
      (Nat.lt_succ_of_le hsize.1) (Nat.lt_succ_of_le hsize.2)
  cases hrun : allStatements d (ofTokensUpTo tokens finish) with
  | error e t =>
    obtain ⟨e', t', hrun', he⟩ := houtcome.exists_of_error hrun
    rw [Parse.eval, Parse.eval, hrun, hrun', SourceError.Alike.eq he]
    rfl
  | ok rs t =>
    obtain ⟨-, rs', t', hrun', hrs, -⟩ := houtcome.exists_of_ok hrun
    -- Where no token is a comment, no request has comments.
    have hfirst := comments_isPrefix (eval_eq_ok.2 ⟨t', hrun'⟩)
    have hnone : rs'.flatMap (·.comments) = [] := by
      simpa [commentTexts, List.filter_filter] using hfirst
    rw [Parse.eval, Parse.eval, hrun, hrun', eq_map_withoutComments hrs hnone]
    rfl

/-- **Comments make no difference, and none is lost.**  In every dialect, a list of tokens and the
same list without its comments make the same error, or the same requests but for their comments.
These are the first comments of the list, in order.  Where there is a last statement, they are all
those up to its last token: `earlier` are the tokens in front of it, from which the other requests
are read, and `own` are the tokens that it takes itself. -/
theorem allStatements_comments (d : Dialect σ) (tokens : List Token) (finish : Nat) :
    (allStatements d).eval (ofTokensUpTo (tokens.filter fun t => !isComment t) finish) =
      ((allStatements d).eval (ofTokensUpTo tokens finish)).map (·.map Request.withoutComments) ∧
    ∀ rs, (allStatements d).eval (ofTokensUpTo tokens finish) = .ok rs →
      rs.flatMap (·.comments) <+: commentTexts tokens ∧
      ∀ before r, rs = before ++ [r] → ∃ earlier own s t,
        Script d (ofTokensUpTo tokens finish) before s ∧ tokens = earlier ++ s.rest ∧
        readStatement d s = .ok r t ∧ s.rest = own ++ t.rest ∧
        rs.flatMap (·.comments) = commentTexts (earlier ++ own) := by
  refine ⟨eval_filter_isComment d tokens finish, fun rs h => ⟨comments_isPrefix h, ?_⟩⟩
  rintro before r rfl
  obtain ⟨u, hscript⟩ := exists_script h
  obtain ⟨s, t, hbefore, hread⟩ := hscript.exists_last
  obtain ⟨hs, earlier, hearlier, hcomments⟩ := hbefore.exists_earlier
  obtain ⟨-, -, own, hown, howncomments⟩ := hs.exists_own hread
  refine ⟨earlier, own, s, t, hbefore, hearlier, hread, hown, ?_⟩
  rw [List.flatMap_append, List.flatMap_singleton, howncomments, ← List.append_assoc, hcomments,
    commentTexts_append]

/-- Comments before, inside and behind statements, and among what a lenient reader passes over. -/
theorem allStatements_comments_lenient :
    let d : Dialect Empty := (Switches.mk true true).declarations.dialect
    let tokens : List Token := [⟨.comment, "a", 0⟩, ⟨.selectWord, "select", 5⟩, ⟨.word, "x", 12⟩,
      ⟨.comment, "b", 14⟩, ⟨.fromWord, "from", 20⟩, ⟨.word, "t", 25⟩, ⟨.comment, "c", 27⟩,
      ⟨.word, "y", 32⟩, ⟨.comment, "d", 34⟩, ⟨.endOfStatement, ";", 39⟩,
      ⟨.selectWord, "select", 41⟩, ⟨.word, "x", 48⟩, ⟨.comment, "e", 50⟩, ⟨.fromWord, "from", 55⟩,
      ⟨.word, "u", 60⟩, ⟨.word, "y", 62⟩, ⟨.comment, "f", 64⟩, ⟨.endOfInput, "", 68⟩]
    ∃ r r', (allStatements d).eval (ofTokensUpTo tokens 68) = .ok [r, r'] ∧
      r.comments = ["a", "b", "c"] ∧ r'.comments = ["d", "e"] ∧
      (allStatements d).eval (ofTokensUpTo (tokens.filter fun t => !isComment t) 68) =
        .ok [r.withoutComments, r'.withoutComments] ∧
      ["a", "b", "c", "d", "e"] <+: commentTexts tokens ∧
      ∃ earlier own s t, Script d (ofTokensUpTo tokens 68) [r] s ∧ tokens = earlier ++ s.rest ∧
        readStatement d s = .ok r' t ∧ s.rest = own ++ t.rest ∧
        ["a", "b", "c", "d", "e"] = commentTexts (earlier ++ own) := by
  intro d tokens
  obtain ⟨hbare, hall⟩ := allStatements_comments d tokens 68
  have hrun : ((allStatements d).eval (ofTokensUpTo tokens 68)).map (·.map (·.comments)) =
      .ok [["a", "b", "c"], ["d", "e"]] := by decide +kernel
  cases hrs : (allStatements d).eval (ofTokensUpTo tokens 68) with
  | error e =>
    rw [hrs] at hrun
    cases hrun
  | ok rs =>
    rw [hrs] at hrun hbare
    have hcomments : rs.map (·.comments) = [["a", "b", "c"], ["d", "e"]] := Except.ok.inj hrun
    obtain ⟨r, r', rfl⟩ : ∃ r r', rs = [r, r'] :=
      List.length_eq_two.1 (by simpa using congrArg List.length hcomments)
    obtain ⟨hr, hr'⟩ : r.comments = ["a", "b", "c"] ∧ r'.comments = ["d", "e"] := by
      simpa using hcomments
    obtain ⟨hfirst, hlast⟩ := hall [r, r'] hrs
    have hlast := hlast [r] r' rfl
    rw [show [r, r'].flatMap (·.comments) = ["a", "b", "c", "d", "e"] by simp [hr, hr']]
      at hfirst hlast
    exact ⟨r, r', rfl, hr, hr', hbare, hfirst, hlast⟩

end RowSieve

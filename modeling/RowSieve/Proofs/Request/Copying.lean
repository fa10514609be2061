import Mathlib.Data.List.Forall2
import RowSieve.Proofs.Request.Statements

/-!
# Streams that go on alike

Two streams may show the same tokens up to the end of the first one, where the second one shows an
end too, perhaps only that of a statement: then one `Follows` the other.  Where the tokens stand,
and which comments were put aside, does not matter.

This is a likeness of streams (`Follows.likeness`), so a statement that is read from the first one
is also read from the second one (`Follows.exists_readStatement`).  Only readers that eat the end of
a statement are left to the module on scripts.
-/

namespace RowSieve

open TokenStream

namespace TokenStream

/-- The second stream goes on as the first does up to its end, where the second one shows `e` with
`more` behind it. -/
def Follows (e : Token) (more : List Token) (s s' : TokenStream) : Prop :=
  s.last.kind = .endOfInput ∧ s'.last.kind = .endOfInput ∧
    ∃ ts ts' finish, List.Forall₂ Token.Same ts ts' ∧ (∀ t ∈ ts, t.kind ≠ .endOfInput) ∧
      finish.kind = .endOfInput ∧ s.rest = ts ++ [finish] ∧ s'.rest = ts' ++ e :: more

variable {e : Token} {more : List Token} {s s' t t' : TokenStream}

theorem isComment_eq_of_same {x y : Token} (h : x.Same y) : isComment x = isComment y := by
  rw [isComment, isComment, h.kind]

theorem forall₂_dropWhile_isComment {ts ts' : List Token} (h : List.Forall₂ Token.Same ts ts') :
    List.Forall₂ Token.Same (ts.dropWhile isComment) (ts'.dropWhile isComment) := by
  induction h with
  | nil => exact .nil
  | @cons x y ts ts' hxy htail ih =>
    rw [List.dropWhile_cons, List.dropWhile_cons, isComment_eq_of_same hxy]
    split
    · exact ih
    · exact .cons hxy htail

theorem dropWhile_isComment_append {ts us : List Token} {x : Token} (hx : isComment x = false) :
    (ts ++ x :: us).dropWhile isComment = ts.dropWhile isComment ++ x :: us := by
  rw [List.dropWhile_append]
  split
  next h =>
    rw [List.isEmpty_iff.1 h, List.nil_append, List.dropWhile_cons_of_neg (by simp [hx])]
  next => rfl

theorem isComment_eq_false_of_isEnd {x : Token} (h : x.isEnd = true) : isComment x = false := by
  cases hx : isComment x with
  | false => rfl
  | true => rw [isEnd_eq_false_of_isComment hx] at h; cases h

/-- Putting comments aside keeps streams together. -/
theorem follows_settle (he : e.isEnd = true) (hlast : s.last.kind = .endOfInput)
    (hlast' : s'.last.kind = .endOfInput) {ts ts' : List Token} {finish : Token}
    (hsame : List.Forall₂ Token.Same ts ts') (hts : ∀ t ∈ ts, t.kind ≠ .endOfInput)
    (hfinish : finish.kind = .endOfInput) (hs : s.rest = ts ++ [finish])
    (hs' : s'.rest = ts' ++ e :: more) : Follows e more s.settle s'.settle := by
  refine ⟨hlast, hlast', _, _, finish, forall₂_dropWhile_isComment hsame,
    fun t ht => hts t ((List.dropWhile_suffix _).subset ht), hfinish, ?_, ?_⟩
  · rw [rest_settle, hs, dropWhile_isComment_append (by simp [isComment, hfinish])]
  · rw [rest_settle, hs', dropWhile_isComment_append (isComment_eq_false_of_isEnd he)]

/-- Either the first stream is at its end, or both show the same token and can be read on. -/
theorem Follows.cases (he : e.isEnd = true) (h : Follows e more s s') :
    (s.current.kind = .endOfInput ∧ s.rest = [s.current] ∧ s'.rest = e :: more) ∨
      (s.current.Same s'.current ∧ s.current.kind ≠ .endOfInput ∧
        Follows e more s.tail s'.tail) := by
  obtain ⟨hlast, hlast', ts, ts', finish, hsame, hts, hfinish, hs, hs'⟩ := h
  cases hsame with
  | nil =>
    have hcurrent : s.current = finish := by simp [current, hs]
    exact .inl ⟨by rw [hcurrent, hfinish], by rw [hcurrent, hs]; rfl, hs'⟩
  | @cons x y ts ts' hxy hsame =>
    have hcurrent : s.current = x := by simp [current, hs]
    have hcurrent' : s'.current = y := by simp [current, hs']
    refine .inr ⟨by rwa [hcurrent, hcurrent'], by rw [hcurrent]; exact hts x (.head _), ?_⟩
    exact follows_settle he hlast hlast' hsame (fun t ht => hts t (.tail _ ht)) hfinish
      (by simp [hs]) (by simp [hs'])

theorem Follows.length_eq (h : Follows e more s s') :
    s'.rest.length = s.rest.length + more.length := by
  obtain ⟨-, -, ts, ts', finish, hsame, -, -, hs, hs'⟩ := h
  have := hsame.length_eq
  simp only [hs, hs', List.length_append, List.length_cons, List.length_nil]
  omega

theorem Follows.rest_ne_nil (h : Follows e more s s') : s.rest ≠ [] ∧ s'.rest ≠ [] := by
  obtain ⟨-, -, ts, ts', finish, -, -, -, hs, hs'⟩ := h
  exact ⟨by simp [hs], by simp [hs']⟩

end TokenStream

/-! ### Statements -/

variable {σ : Type}

/-- Every statement opens with its entry clause, and no clause opens with an end. -/
structure Dialect.Opening (d : Dialect σ) : Prop where
  /-- The first clause of a statement. -/
  first : ∀ st ∈ d.statements, ∃ c cs, st.clauses = c :: cs ∧ c.keyword = st.entry
  /-- The words that open clauses. -/
  keyword : ∀ st ∈ d.statements, ∀ c ∈ st.clauses,
    c.keyword ∉ [Kind.endOfStatement, .endOfInput]

theorem Dialect.Opening.exists_clause {d : Dialect σ} (hd : d.Opening) {kind : Kind}
    {st : Statement σ} (h : d.statement? kind = some st) :
    st ∈ d.statements ∧ ∃ c cs, st.clauses = c :: cs ∧ c.keyword = kind := by
  have hmem := List.mem_of_find?_eq_some h
  obtain ⟨c, cs, hcs, hc⟩ := hd.first st hmem
  refine ⟨hmem, c, cs, hcs, hc.trans ?_⟩
  simpa using List.find?_some h

theorem Dialect.Opening.statement?_eq_none {d : Dialect σ} (hd : d.Opening) {kind : Kind}
    (h : kind ∈ [Kind.endOfStatement, .endOfInput]) : d.statement? kind = none := by
  cases hst : d.statement? kind with
  | none => rfl
  | some st =>
    obtain ⟨hmem, c, cs, hcs, rfl⟩ := hd.exists_clause hst
    exact absurd h (hd.keyword st hmem c (by rw [hcs]; exact .head _))

namespace TokenStream

section Statements

variable {σ : Type} {d : Dialect σ} {e : Token} {more : List Token} {s s' t : TokenStream}
  {r : Request}

variable (he : e.isEnd = true)
include he

/-- Following is a likeness, up to an end. -/
def Follows.likeness (more : List Token) : Likeness where
  stream := Follows e more
  token x y := x.Same y ∨
    x.kind ∈ [Kind.endOfStatement, .endOfInput] ∧ y.kind ∈ [Kind.endOfStatement, .endOfInput]
  stops := [.endOfStatement, .endOfInput]
  size := List.length
  ends := List.Subset.refl _
  last h := ⟨h.1, h.2.1⟩
  current h := by
    rcases h.cases he with ⟨hkind, -, hrest'⟩ | ⟨hsame, -⟩
    · refine .inr ⟨by simp [hkind], ?_⟩
      simpa [current, hrest', Token.isEnd] using he
    · exact .inl hsame
  same := id
  tail h hk := ((h.cases he).resolve_left fun hend => hk (by simp [hend.1])).2.2
  size_lt _ hsuffix hne := Nat.lt_of_le_of_ne hsuffix.length_le (mt hsuffix.eq_of_length hne)
  size_le h := ⟨Nat.le_refl _, h.length_eq ▸ Nat.le_add_right _ _⟩

/-- A statement that is read from the first stream is read from the second. -/
theorem Follows.exists_readStatement (hd : d.Opening) (h : Follows e more s s')
    (hr : readStatement d s = .ok r t) :
    ∃ r' t', readStatement d s' = .ok r' t' ∧ r.SameUpToComments r' ∧ Follows e more t t' := by
  have hagree := Likeness.agree_readStatement (L := likeness he more) (n := s.rest.length) (d := d)
    (fun kind hk => hd.statement?_eq_none hk) hd.keyword fun _ _ h => h
  exact ((hagree.outcome h (Nat.le_refl _)).exists_of_ok hr).2

/-- A statement takes at least one token. -/
theorem Follows.length_lt_of_readStatement (hd : d.Opening) (hs : Follows e more s s')
    (h : readStatement d s = .ok r t) : t.rest.length < s.rest.length := by
  simp only [readStatement, bind_peek] at h
  cases hst : d.statement? s.current.kind with
  | none =>
    rw [hst] at h
    exact absurd h throw_ne_ok
  | some st =>
    obtain ⟨hmem, c, cs, hcs, hc⟩ := hd.exists_clause hst
    have hkeyword := hd.keyword st hmem
    rw [hst] at h
    rw [hcs] at hkeyword
    obtain ⟨hck, hcsk⟩ := List.forall_mem_cons.1 hkeyword
    rcases hs.cases he with ⟨hend, -⟩ | ⟨-, -, htail⟩
    · exact absurd (by rw [hc, hend]; simp) hck
    · obtain ⟨r', u, hr, h⟩ := bind_eq_ok.1 h
      rw [hcs, readClauses_of_kind hc.symm] at hr
      have hread : (likeness he more).Agree s.tail.rest.length Eq
          (do readClauses d cs (← c.body.read d (.blank st.kind)))
          (do readClauses d cs (← c.body.read d (.blank st.kind))) := by
        refine (Likeness.agree_read d _ _).bind ?_
        rintro r₁ _ rfl
        exact Likeness.agree_readClauses cs hcsk r₁
      have hsuffix := ((hread.outcome htail (Nat.le_refl _)).exists_of_ok hr).1.length_le
      cases h
      exact Nat.lt_of_le_of_lt hsuffix (length_tail_lt hs.rest_ne_nil.1)

end Statements

end TokenStream

end RowSieve

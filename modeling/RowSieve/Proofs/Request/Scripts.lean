import RowSieve.Proofs.Grammar.Surroundings
import RowSieve.Proofs.Request.Copying
import RowSieve.Query

/-!
# Scripts one after the other

Reading a script leaves nothing behind that would change how the next one is read.  If two sources
are scripts, then so are both of them with a new line and a semicolon between, and it has the
requests of the one and then of the other (`Switches.parseScript_join`).

The semicolon is eaten by the first script, as the end of its last statement or as an empty
statement (`Follows.continues`).
-/

namespace RowSieve

open TokenStream

variable {σ : Type} {d : Dialect σ} {s s' t t' : TokenStream} {e : Token} {more : List Token}

namespace TokenStream

/-- A stream is past the end that `e` shows, with `more` behind it: a semicolon has been eaten. -/
structure Past (e : Token) (more : List Token) (s : TokenStream) : Prop where
  /-- After the last token, the end of the input is shown. -/
  last : s.last.kind = .endOfInput
  /-- What is left. -/
  rest : s.rest = if e.kind = .endOfStatement then more.dropWhile isComment else e :: more

theorem Past.length_le (h : Past e more s) : s.rest.length ≤ more.length + 1 := by
  rw [h.rest]
  split
  · exact Nat.le_succ_of_le (List.dropWhile_suffix _).length_le
  · exact Nat.le_refl _

theorem Follows.isEnd_current (he : e.isEnd = true) (h : Follows e more s s') :
    s'.current.isEnd = s.current.isEnd :=
  Likeness.isEnd_current (L := likeness he more) h

/-- At an end, a semicolon is eaten. -/
theorem Follows.exists_eat (he : e.isEnd = true) (h : Follows e more s s')
    (hend : s.current.isEnd = true) :
    ∃ t t', (do let _ ← eat .endOfStatement : Parse Unit) s = .ok () t ∧
      (do let _ ← eat .endOfStatement : Parse Unit) s' = .ok () t' ∧
      t.rest.length ≤ s.rest.length ∧
      (Follows e more t t' ∨ t.current.kind = .endOfInput ∧ Past e more t') := by
  rcases h.cases he with ⟨hkind, -, hrest'⟩ | ⟨hsame, hne, htail⟩
  · have hcurrent' : s'.current = e := by simp [current, hrest']
    rw [bind_eat_of_kind_ne (by rw [hkind]; decide)]
    by_cases he' : e.kind = .endOfStatement
    · rw [bind_eat_of_kind (by rw [hcurrent', he'])]
      exact ⟨s, _, rfl, rfl, Nat.le_refl _, .inr ⟨hkind, h.2.1, by simp [he', hrest']⟩⟩
    · rw [bind_eat_of_kind_ne (by rwa [hcurrent'])]
      exact ⟨s, _, rfl, rfl, Nat.le_refl _, .inr ⟨hkind, h.2.1, by simp [he', hrest']⟩⟩
  · have hkind : s.current.kind = .endOfStatement := by
      simpa [Token.isEnd, hne] using hend
    rw [bind_eat_of_kind hkind, bind_eat_of_kind (hsame.kind ▸ hkind)]
    exact ⟨_, _, rfl, rfl, Nat.le_of_lt (length_tail_lt h.rest_ne_nil.1), .inl htail⟩

/-- A statement that is finished in the first stream is finished in the second. -/
theorem Follows.exists_finishStatement (he : e.isEnd = true) (h : Follows e more s s')
    (hrun : finishStatement d s = .ok () t) :
    t.rest.length ≤ s.rest.length ∧ ∃ t', finishStatement d s' = .ok () t' ∧
      (Follows e more t t' ∨ t.current.kind = .endOfInput ∧ Past e more t') := by
  cases hend : s.current.isEnd with
  | true =>
    rw [finishStatement_of_isEnd hend] at hrun
    rw [finishStatement_of_isEnd ((h.isEnd_current he).trans hend)]
    obtain ⟨u, u', hu, hu', hle, hpast⟩ := h.exists_eat he hend
    rw [hu] at hrun
    cases hrun
    exact ⟨hle, u', hu', hpast⟩
  | false =>
    cases hd : d.strict with
    | true =>
      rw [(exists_finishStatement_iff hd).1 ⟨t, hrun⟩] at hend
      cases hend
    | false =>
      rw [finishStatement_of_lenient hd hend] at hrun
      rw [finishStatement_of_lenient hd ((h.isEnd_current he).trans hend)]
      obtain ⟨_, v, hv, hrun⟩ := bind_eq_ok.1 hrun
      have hskip := Likeness.agree_skipToEnd (L := likeness he more) s.rest.length s.rest.length
        (Nat.le_refl _) s'.rest.length (h.length_eq ▸ Nat.le_add_right _ _)
      obtain ⟨hsuffix, _, v', hv', -, hfollows⟩ :=
        (hskip.outcome h (Nat.le_refl _)).exists_of_ok hv
      have hvend := isEnd_current_of_skipToEnd h.1 (Nat.le_refl _) hv
      obtain ⟨u, u', hu, hu', hle, hpast⟩ := hfollows.exists_eat he hvend
      rw [hu] at hrun
      cases hrun
      rw [bind_of_ok hv']
      exact ⟨Nat.le_trans hle hsuffix.length_le, u', hu', hpast⟩

/-! ### Statements -/

/-- The requests are read from the stream, up to their comments.  Behind them come those that are
read past the end `e`, where `more` is left. -/
def Continues (d : Dialect σ) (e : Token) (more : List Token) (bound : Nat) (s : TokenStream)
    (rs : List Request) : Prop :=
  ∃ k u rs', Past e more u ∧ u.rest.length < k ∧ List.Forall₂ Request.SameUpToComments rs rs' ∧
    ∀ rs'' t, statementsWithin d k u = .ok rs'' t →
      statementsWithin d bound s = .ok (rs' ++ rs'') t

theorem Past.continues {k : Nat} (h : Past e more s) (hk : s.rest.length < k) :
    Continues d e more k s [] :=
  ⟨k, s, [], h, hk, .nil, fun _ _ ht => ht⟩

/-- A semicolon in front does not matter. -/
theorem Continues.of_tail {n : Nat} {rs : List Request} (hlast : s.last.kind = .endOfInput)
    (hk : s.current.kind = .endOfStatement) (h : Continues d e more (n + 1) s.tail rs) :
    Continues d e more (n + 1) s rs := by
  obtain ⟨k, u, rs', hu, hlt, hrs, hall⟩ := h
  refine ⟨k, u, rs', hu, hlt, hrs, fun rs'' t ht => ?_⟩
  rw [statementsWithin_tail hlast hk]
  exact hall rs'' t ht

/-- A statement comes first. -/
theorem Continues.cons {n : Nat} {s₁ s₂ : TokenStream} {r r' : Request} {rs : List Request}
    (h : Continues d e more n s₂ rs) (hstatement : s.current.kind ≠ .endOfStatement)
    (hinput : s.current.kind ≠ .endOfInput) (hr' : readStatement d s = .ok r' s₁)
    (hfinish : finishStatement d s₁ = .ok () s₂) (hr : r.SameUpToComments r') :
    Continues d e more (n + 1) s (r :: rs) := by
  obtain ⟨k, u, rs', hu, hlt, hrs, hall⟩ := h
  refine ⟨k, u, r' :: rs', hu, hlt, .cons hr hrs, fun rs'' t ht => ?_⟩
  rw [statementsWithin_of_statement hstatement hinput, bind_of_ok hr', bind_of_ok hfinish,
    bind_of_ok (hall rs'' t ht)]
  rfl

/-- Where the first stream is at its end, the second is past its own, or at a semicolon. -/
theorem Follows.continues_of_end {m : Nat} (h : Follows e more s s') (hk : s'.current = e)
    (hrest : s'.rest = e :: more) (hm : s'.rest.length < m + 1) :
    Continues d e more (m + 1) s' [] := by
  by_cases he : e.kind = .endOfStatement
  · have hlt := length_tail_lt h.rest_ne_nil.2
    have hpast : Past e more s'.tail := ⟨h.2.1, by simp [he, hrest]⟩
    exact .of_tail h.2.1 (by rw [hk, he]) (hpast.continues (by omega))
  · exact Past.continues ⟨h.2.1, by simp [he, hrest]⟩ hm

/-- Statements that are read from the first stream are read from the second, and then what is past
the end of the first. -/
theorem Follows.continues (he : e.isEnd = true) (hd : d.Opening) {n m : Nat}
    (h : Follows e more s s') (hn : s.rest.length < n) (hm : s'.rest.length < m)
    {rs : List Request} (hrun : statementsWithin d n s = .ok rs t) :
    Continues d e more m s' rs := by
  induction hlength : s.rest.length using Nat.strongRecOn generalizing s s' n m rs with
  | ind l ih =>
    have hlt := length_tail_lt h.rest_ne_nil.1
    have hlt' := length_tail_lt h.rest_ne_nil.2
    have hsum := h.length_eq
    obtain ⟨n, rfl⟩ : ∃ n', n = n' + 1 := Nat.exists_eq_add_one.2 (by omega)
    obtain ⟨m, rfl⟩ : ∃ m', m = m' + 1 := Nat.exists_eq_add_one.2 (by omega)
    rcases h.cases he with ⟨hkind, -, hrest'⟩ | ⟨hsame, hne, htail⟩
    · rw [statementsWithin_of_end hkind] at hrun
      cases hrun
      exact h.continues_of_end (by simp [current, hrest']) hrest' hm
    · by_cases hk : s.current.kind = .endOfStatement
      · rw [statementsWithin_tail h.1 hk] at hrun
        have hbound : s'.tail.rest.length < m + 1 := by omega
        exact .of_tail h.2.1 (hsame.kind ▸ hk)
          (ih s.tail.rest.length (by omega) htail (by omega) hbound hrun rfl)
      · rw [statementsWithin_of_statement hk hne] at hrun
        obtain ⟨r, s₁, hr, hrun⟩ := bind_eq_ok.1 hrun
        obtain ⟨_, s₂, hfinish, hrun⟩ := bind_eq_ok.1 hrun
        obtain ⟨rs₂, s₃, hrs₂, hrun⟩ := bind_eq_ok.1 hrun
        obtain ⟨rfl, rfl⟩ := pure_eq_ok.1 hrun
        have hprogress := h.length_lt_of_readStatement he hd hr
        obtain ⟨r', s₁', hr', hsamer, hfollows₁⟩ := h.exists_readStatement he hd hr
        obtain ⟨hle, s₂', hfinish', hcase⟩ := hfollows₁.exists_finishStatement he hfinish
        suffices Continues d e more m s₂' rs₂ from
          this.cons (hsame.kind ▸ hk) (hsame.kind ▸ hne) hr' hfinish' hsamer
        rcases hcase with hfollows₂ | ⟨hend, hpast⟩
        · have hsum₂ := hfollows₂.length_eq
          have hbound : s₂'.rest.length < m := by omega
          exact ih s₂.rest.length (by omega) hfollows₂ (by omega) hbound hrs₂ rfl
        · -- The statement was the last one of the first stream.
          have hpos := length_tail_lt htail.rest_ne_nil.1
          have hpastLength := hpast.length_le
          obtain ⟨n, rfl⟩ : ∃ n', n = n' + 1 := Nat.exists_eq_add_one.2 (by omega)
          rw [statementsWithin_of_end hend] at hrs₂
          cases hrs₂
          exact hpast.continues (by omega)

end TokenStream

/-! ### Sources -/

/-- The end of the input is the last of the tokens and only the last. -/
theorem Dialect.Relabelling.exists_append {c : Cursor} {raw labelled : List Token}
    (hd : ∀ w, d.keyword? w ≠ some .endOfInput) (h : d.Relabelling c raw labelled) :
    ∃ ts finish, labelled = ts ++ [finish] ∧ finish.kind = .endOfInput ∧
      ∀ t ∈ ts, t.kind ≠ .endOfInput := by
  induction h with
  | @finish c after token hnext hk => exact ⟨[], token, rfl, hk, by simp⟩
  | token hnext hk hclass _ ih =>
    obtain ⟨ts, finish, rfl, hfinish, hts⟩ := ih
    refine ⟨_ :: ts, finish, rfl, hfinish, List.forall_mem_cons.2 ⟨?_, hts⟩⟩
    cases hclass with
    | other => exact hk
    | keyword _ hw =>
      rintro rfl
      exact hd _ (keyword?_eq_some_iff.2 hw)
    | function => simp
    | word => simp

/-- What `parseScript` does with the tokens of a source. -/
theorem parseScript_eq_ok_iff [Strategies σ] {source : String} {rs : List Request} :
    parseScript d source = .ok rs ↔ ∃ tokens, d.tokenize source = .ok tokens ∧
      ∃ t, statementsWithin d ((ofTokensUpTo tokens source.utf8ByteSize).rest.length + 1)
        (ofTokensUpTo tokens source.utf8ByteSize) = .ok rs t := by
  cases h : d.tokenize source with
  | error e => simp [parseScript, Dialect.stream, h, Except.map, Except.bind]
  | ok tokens =>
    simp only [parseScript, Dialect.stream, h, Except.map, Except.bind, eval_eq_ok, allStatements,
      bind_remaining, Except.ok.injEq, exists_eq_left']

theorem forall₂_same_refl (ts : List Token) : List.Forall₂ Token.Same ts ts :=
  List.forall₂_same.2 fun _ _ => ⟨rfl, rfl⟩

theorem forall₂_same_moved (n : Nat) (ts : List Token) :
    List.Forall₂ Token.Same ts (ts.map (.moved n)) := by
  rw [List.forall₂_map_right_iff]
  exact List.forall₂_same.2 fun _ _ => ⟨rfl, rfl⟩

/-- Past a semicolon, the stream follows the one of the tokens behind it alone. -/
theorem TokenStream.Past.follows_moved {us : List Token} {last : Token} {bytes finish : Nat}
    (h : Past e ((us ++ [last]).map (.moved bytes)) s) (he : e.kind = .endOfStatement)
    (hus : ∀ t ∈ us, t.kind ≠ .endOfInput) (hlast : last.kind = .endOfInput) :
    Follows (last.moved bytes) [] (ofTokensUpTo (us ++ [last]) finish) s := by
  have hsettle : Follows (last.moved bytes) [] (ofTokensUpTo (us ++ [last]) finish)
      (settle ⟨(us ++ [last]).map (.moved bytes), [], s.last⟩) :=
    follows_settle (isEnd_of_kind hlast) rfl h.last (forall₂_same_moved bytes us) hus hlast rfl
      (List.map_append ..)
  have hrest : s.rest = ((us ++ [last]).map (.moved bytes)).dropWhile isComment := by
    rw [h.rest, if_pos he]
  exact ⟨rfl, h.last, hrest ▸ hsettle.2.2⟩

/-- There is nothing past the end of the input. -/
theorem TokenStream.Past.kind_current (h : Past e [] s) (he : e.kind = .endOfInput) :
    s.current.kind = .endOfInput := by
  have hrest : s.rest = [e] := by rw [h.rest, if_neg (by rw [he]; decide)]
  rw [current, hrest]
  exact he

theorem exists_parseScript_join [Strategies σ]
    (hlist : ∀ st ∈ d.statements, ∀ c ∈ st.clauses, c.strategy = .list) (hd : d.Opening)
    (hword : ∀ w, d.keyword? w ≠ some .endOfInput) {a b : String} {ra rb : List Request}
    (ha : parseScript d a = .ok ra) (hb : parseScript d b = .ok rb) :
    ∃ r, parseScript d (a ++ "\n;" ++ b) = .ok r ∧
      List.Forall₂ Request.SameUpToComments (ra ++ rb) r := by
  obtain ⟨ta, hta, sa, hsa⟩ := parseScript_eq_ok_iff.1 ha
  obtain ⟨tb, htb, sb, hsb⟩ := parseScript_eq_ok_iff.1 hb
  obtain ⟨ts, finish, semicolon, bytes, rfl, hfinish, hsemicolon, htokens⟩ :=
    Dialect.tokenize_join hlist hta htb
  obtain ⟨_, hrela⟩ := Dialect.exists_relabelling hlist hta
  obtain ⟨ts', finish', heq, -, hts⟩ := hrela.exists_append hword
  obtain ⟨rfl, -⟩ := List.append_inj' heq rfl
  obtain ⟨_, hrelb⟩ := Dialect.exists_relabelling hlist htb
  obtain ⟨us, last, rfl, hlast, hus⟩ := hrelb.exists_append hword
  -- The first script, up to the semicolon.
  have hfollowsA : Follows semicolon ((us ++ [last]).map (.moved bytes))
      (ofTokensUpTo (ts ++ [finish]) a.utf8ByteSize)
      (ofTokensUpTo (ts ++ semicolon :: (us ++ [last]).map (.moved bytes))
        (a ++ "\n;" ++ b).utf8ByteSize) :=
    follows_settle (by simp [Token.isEnd, hsemicolon]) rfl rfl (forall₂_same_refl ts) hts hfinish
      rfl rfl
  obtain ⟨k, u, ra', hu, hk, hra, hall⟩ := hfollowsA.continues
    (by simp [Token.isEnd, hsemicolon]) hd (Nat.lt_succ_self _) (Nat.lt_succ_self _) hsa
  -- The second script, from there on.
  have hfollowsB : Follows (last.moved bytes) [] (ofTokensUpTo (us ++ [last]) b.utf8ByteSize) u :=
    hu.follows_moved hsemicolon hus hlast
  have hmoved : (last.moved bytes).kind = .endOfInput := hlast
  obtain ⟨l, v, rb', hv, hl, hrb, hall'⟩ := hfollowsB.continues (isEnd_of_kind hmoved) hd
    (Nat.lt_succ_self _) hk hsb
  have hvend := hv.kind_current hmoved
  obtain ⟨l, rfl⟩ : ∃ l', l = l' + 1 := Nat.exists_eq_add_one.2 (by omega)
  have hjoined := hall _ _ (hall' _ _ (statementsWithin_of_end hvend l))
  rw [List.append_nil] at hjoined
  exact ⟨_, parseScript_eq_ok_iff.2 ⟨_, htokens, _, hjoined⟩, List.rel_append hra hrb⟩

/-- All clauses of the stock dialect and its variants are split by the strategy for lists. -/
theorem Switches.strategy_eq_list (switches : Switches) :
    ∀ st ∈ switches.declarations.dialect.statements, ∀ c ∈ st.clauses, c.strategy = .list := by
  simp [Declarations.dialect, Switches.declarations, sql]

/-- **Two scripts, one after the other.**  In every variant of the stock dialect, if two sources are
scripts then so are both with a new line and a semicolon between, with the requests of the first and
then those of the second.  Only their comments may be collected in other requests. -/
theorem Switches.parseScript_join (switches : Switches) {registry : Registry} {d : Dialect Empty}
    (hd : (switches.declarations.establish registry).1 = .ok d) {a b : String}
    {ra rb : List Request} (ha : parseScript d a = .ok ra) (hb : parseScript d b = .ok rb) :
    ∃ r, parseScript d (a ++ "\n;" ++ b) = .ok r ∧
      List.Forall₂ Request.SameUpToComments (ra ++ rb) r := by
  obtain rfl := Declarations.eq_dialect_of_establish hd
  refine exists_parseScript_join switches.strategy_eq_list ⟨?_, ?_⟩ (fun w hw => ?_) ha hb
  · simp [Declarations.dialect, Switches.declarations, sql]
  · simp [Declarations.dialect, Switches.declarations, sql]
  · exact absurd (mem_of_keyword?_sql (σ := Empty) hw) (by decide)

/-- The first script ends inside a comment, with a word that a lenient reader passes over. -/
theorem Switches.parseScript_join_open_comment :
    let d := (Switches.mk true true).declarations.dialect
    ∃ ra rb r,
      ra = [{ kind := .select, columns := [⟨"a", none⟩], source := some ⟨"t", [], none⟩,
              predicates := .empty, operators := .empty, limit := none, comments := [] }] ∧
      rb = [{ kind := .select, columns := [⟨"f(b)", some (.call "f" [.field "b"])⟩],
              source := some ⟨"u", [], none⟩, predicates := Dictionary.empty.insert "b" "b",
              operators := Dictionary.empty.insert "b" .greaterThan, limit := some 2,
              comments := [] }] ∧
      parseScript d "select a from t x -- y" = .ok ra ∧
      parseScript d "select f(b) from u where b > -1 limit 2" = .ok rb ∧
      parseScript d ("select a from t x -- y" ++ "\n;" ++
        "select f(b) from u where b > -1 limit 2") = .ok r ∧
      List.Forall₂ Request.SameUpToComments (ra ++ rb) r := by
  have hta : ((Switches.mk true true).declarations : Declarations Empty).dialect.tokenize
      "select a from t x -- y" =
      .ok [⟨.selectWord, "select", 0⟩, ⟨.word, "a", 7⟩, ⟨.fromWord, "from", 9⟩, ⟨.word, "t", 14⟩,
        ⟨.word, "x", 16⟩, ⟨.comment, "y", 18⟩, ⟨.endOfInput, "", 22⟩] :=
    Relay.run_of_afterSteps (n := 40) (by rfl)
  have htb : ((Switches.mk true true).declarations : Declarations Empty).dialect.tokenize
      "select f(b) from u where b > -1 limit 2" =
      .ok [⟨.selectWord, "select", 0⟩, ⟨.function, "f", 7⟩, ⟨.leftParen, "(", 8⟩, ⟨.word, "b", 9⟩,
        ⟨.rightParen, ")", 10⟩, ⟨.fromWord, "from", 12⟩, ⟨.word, "u", 17⟩,
        ⟨.whereWord, "where", 19⟩, ⟨.word, "b", 25⟩, ⟨.greater, ">", 27⟩, ⟨.minus, "-", 29⟩,
        ⟨.number, "1", 30⟩, ⟨.limitWord, "limit", 32⟩, ⟨.number, "2", 38⟩, ⟨.endOfInput, "", 39⟩] :=
    Relay.run_of_afterSteps (n := 40) (by rfl)
  intro d
  have hestablish : ((Switches.mk true true).declarations.establish .shared).1 = .ok d := rfl
  have ha := parseScript_eq_ok_iff.2 ⟨_, hta, _, rfl⟩
  have hb := parseScript_eq_ok_iff.2 ⟨_, htb, _, rfl⟩
  obtain ⟨r, hr, hall⟩ := Switches.parseScript_join ⟨true, true⟩ hestablish ha hb
  exact ⟨_, _, r, rfl, rfl, ha, hb, hr, hall⟩

end RowSieve

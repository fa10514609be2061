import RowSieve.Proofs.Request.Soundness

/-!
# Grammatical statements are read

Where a phrase of the grammar stands in a stream, its reader takes it, all of it, provided that what
comes next does not go on with the phrase.  The proofs go along the phrases; bounds are large enough
for the tokens of a phrase.
-/

namespace RowSieve

open TokenStream Phrase

variable {σ : Type} {s s' : TokenStream} {bound : Nat}

/-! ### Calls -/

/-- The reader of arguments takes the tokens, for an argument that they stand for. -/
def TakesArgument (ts : List Token) (n : Node) : Prop :=
  ∀ {s s' : TokenStream} {bound}, s.Reads ts s' → s'.current.kind ≠ .leftParen →
    2 * ts.length ≤ bound → argumentWithin bound s = .ok n s'

theorem argumentsWithin_complete {ts : List Token} {ns : List Node} {c : Token}
    (h : Separated .comma TakesArgument ts ns) (hc : c.kind = .rightParen)
    (hts : s.Reads (ts ++ [c]) s') (hb : 2 * ts.length + 1 ≤ bound) :
    argumentsWithin bound s = .ok ns s' := by
  induction h generalizing s bound with
  | @single ts n hn =>
    obtain ⟨s₁, hts₁, rfl, rfl⟩ := reads_append.1 hts
    cases bound with
    | zero => omega
    | succ bound =>
      have hfirst : argumentWithin bound s = .ok n s₁ := hn hts₁ (by simp [hc]) (by omega)
      rw [argumentsWithin, bind_of_ok hfirst, bind_eat_of_kind_ne (by simp [hc])]
      exact bind_expect_eq_ok.2 ⟨hc, rfl⟩
  | @cons ts n t us ns hn ht _ ih =>
    rw [List.append_assoc] at hts
    obtain ⟨s₁, hts₁, rfl, hus⟩ := reads_append.1 hts
    simp only [List.length_append, List.length_cons] at hb
    cases bound with
    | zero => omega
    | succ bound =>
      have hfirst : argumentWithin bound s = .ok n s₁ := hn hts₁ (by simp [ht]) (by omega)
      have hrest : argumentsWithin bound s₁.tail = .ok ns s' := ih hus (by omega)
      rw [argumentsWithin, bind_of_ok hfirst, bind_eat_of_kind ht]
      exact bind_of_ok hrest _

theorem callWithin_complete {ts : List Token} {ns : List Node}
    (h : Parenthesized (fun ts n => ∃ _ : Argument ts n, TakesArgument ts n) ts ns)
    (hts : s.Reads ts s') (hb : 2 * ts.length ≤ bound + 1) (name : String) :
    callWithin bound name s = .ok (.call name ns) s' := by
  cases bound with
  | zero =>
    -- The parentheses alone take more than the bound.
    cases h <;> simp only [List.length_append, List.length_cons] at hb <;> omega
  | succ bound =>
    cases h with
    | empty ho hc =>
      obtain ⟨rfl, rfl, rfl⟩ := hts
      refine bind_expect_eq_ok.2 ⟨ho, ?_⟩
      rw [bind_eat_of_kind hc]
      rfl
    | @filled o ts _ c ho hn hc =>
      obtain ⟨rfl, hts⟩ := hts
      simp only [List.length_append, List.length_cons] at hb
      have harguments : argumentsWithin bound s.tail = .ok ns s' :=
        argumentsWithin_complete (hn.mono fun _ _ _ h => h.2) hc hts (by omega)
      obtain ⟨t, us, rfl, ht⟩ := Separated.opens (fun _ _ h => Argument.opens h.1) hn
      refine bind_expect_eq_ok.2 ⟨ho, ?_⟩
      rw [bind_eat_of_kind_ne (hts.1 ▸ ht)]
      exact bind_of_ok harguments _

/-- An argument has a token, so there is a bound to take it with. -/
theorem takesArgument_of_succ {ts : List Token} {n : Node} (hne : ts ≠ [])
    (h : ∀ {s s' : TokenStream} {bound}, s.Reads ts s' → s'.current.kind ≠ .leftParen →
      2 * ts.length ≤ bound + 1 → argumentWithin (bound + 1) s = .ok n s') :
    TakesArgument ts n := by
  intro s s' bound hts hparen hb
  have := List.length_pos_iff.2 hne
  cases bound with
  | zero => omega
  | succ bound => exact h hts hparen hb

theorem takesArgument {ts : List Token} {n : Node} (h : Argument ts n) : TakesArgument ts n := by
  induction h using Argument.induct with
  | field h =>
    refine takesArgument_of_succ (by simp) fun hts hparen _ => ?_
    obtain ⟨rfl, rfl⟩ := hts
    simp [argumentWithin, h, hparen]
  | number h =>
    refine takesArgument_of_succ (by simp) fun hts _ _ => ?_
    obtain ⟨rfl, rfl⟩ := hts
    simp only [argumentWithin, bind_peek, bind_advance, h, pure_eq_ok, and_self]
  | text h =>
    refine takesArgument_of_succ (by simp) fun hts _ _ => ?_
    obtain ⟨rfl, rfl⟩ := hts
    simp only [argumentWithin, bind_peek, bind_advance, h, pure_eq_ok, and_self]
  | negative hm h =>
    refine takesArgument_of_succ (by simp) fun hts _ _ => ?_
    obtain ⟨rfl, rfl, rfl⟩ := hts
    simp only [argumentWithin, bind_peek, bind_advance, hm, bind_expect_eq_ok, h, pure_eq_ok,
      and_self]
  | @call t ts arguments h _ ih =>
    refine takesArgument_of_succ (by simp) fun {s s' bound} hts _ hb => ?_
    obtain ⟨rfl, hts⟩ := hts
    simp only [List.length_cons] at hb
    have hcall : callWithin bound s.current.text s.tail = .ok (.call s.current.text arguments) s' :=
      callWithin_complete ih hts (by omega) s.current.text
    obtain ⟨o, us, rfl, hopen⟩ := ih.exists_head
    rw [← hts.1] at hopen
    rcases h with h | h <;> simp [argumentWithin, h, hopen, hcall]

theorem readCall_complete {ts : List Token} {ns : List Node} (hs : s.Fit)
    (h : Parenthesized Argument ts ns) (hts : s.Reads ts s') (name : String) :
    readCall name s = .ok (.call name ns) s' := by
  have hlen := hs.length_le hts (arguments_isEnd_eq_false h)
  rw [readCall, bind_remaining]
  exact callWithin_complete (h.mono fun _ _ _ h => ⟨h, takesArgument h⟩) hts (by omega) name

/-! ### Clauses -/

/-- What comes next ends a clause and goes on with nothing that may stand at the end of one. -/
structure Stops (d : Dialect σ) (s : TokenStream) : Prop where
  /-- The clause ends. -/
  ends : endsClause d s.current = true
  /-- Nothing goes on. -/
  kind : s.current.kind ∉ [Kind.leftParen, .asWord, .comma, .andWord, .orWord]

theorem withAlias_complete {α : Type} {ts : List Token} {aliased : Option String}
    (h : Optionally .asWord Word ts aliased) (hts : s.Reads ts s')
    (has : s'.current.kind ≠ .asWord) (expected : String) (result : Option String → α) :
    withAlias expected result s = .ok (result aliased) s' := by
  cases h with
  | absent =>
    cases hts
    rw [withAlias, bind_eat_of_kind_ne has]
    rfl
  | present ht hw =>
    obtain ⟨hw⟩ := hw
    obtain ⟨rfl, rfl, rfl⟩ := hts
    rw [withAlias, bind_eat_of_kind ht]
    exact bind_expect_eq_ok.2 ⟨hw, rfl⟩

theorem readColumnSource_complete {ts : List Token} {c : Column} (hs : s.Fit)
    (h : ColumnSource ts c) (hts : s.Reads ts s') : readColumnSource s = .ok c s' := by
  cases h with
  | field h =>
    obtain ⟨rfl, rfl⟩ := hts
    simp only [readColumnSource, bind_peek, bind_advance, h, pure_eq_ok, and_self]
  | call h hargs =>
    obtain ⟨rfl, hts⟩ := hts
    have hcall := readCall_complete hs.tail hargs hts s.current.text
    simp only [readColumnSource, bind_peek, bind_advance, h, bind_of_ok hcall, pure_eq_ok, and_self]

theorem readColumn_complete {ts : List Token} {c : Column} (hs : s.Fit) (h : ResultColumn ts c)
    (hts : s.Reads ts s') (has : s'.current.kind ≠ .asWord) : readColumn s = .ok c s' := by
  obtain ⟨hsource, halias⟩ := h
  obtain ⟨s₁, hsource', halias'⟩ := reads_append.1 hts
  rw [readColumn, bind_of_ok (readColumnSource_complete hs hsource hsource')]
  exact withAlias_complete halias halias' has "a column alias" (aliasColumn _)

theorem columnsWithin_complete {d : Dialect σ} {ts : List Token} {cs : List Column} (hs : s.Fit)
    (h : Separated .comma ResultColumn ts cs) (hts : s.Reads ts s') (hstop : Stops d s')
    (hb : ts.length < bound) : columnsWithin d bound s = .ok cs s' := by
  induction h generalizing s bound with
  | single hc =>
    cases bound with
    | zero => omega
    | succ bound =>
      have has : s'.current.kind ≠ .asWord := fun hk => hstop.kind (by simp [hk])
      have hcomma : s'.current.kind ≠ .comma := fun hk => hstop.kind (by simp [hk])
      rw [columnsWithin, bind_of_ok (readColumn_complete hs hc hts has),
        bind_eat_of_kind_ne hcomma]
      simp [hstop.ends]
  | @cons ts c t us cs hc ht _ ih =>
    obtain ⟨s₁, hts₁, rfl, hus⟩ := reads_append.1 hts
    simp only [List.length_append, List.length_cons] at hb
    cases bound with
    | zero => omega
    | succ bound =>
      have hrest : columnsWithin d bound s₁.tail = .ok cs s' :=
        ih (hs.reads hts₁).tail hus (by omega)
      rw [columnsWithin, bind_of_ok (readColumn_complete hs hc hts₁ (by simp [ht])),
        bind_eat_of_kind ht]
      exact bind_of_ok hrest _

theorem readSource_complete {d : Dialect σ} {ts : List Token} {source : Source} (hs : s.Fit)
    (h : RowSource ts source) (hts : s.Reads ts s') (hstop : Stops d s') :
    readSource s = .ok source s' := by
  have has : s'.current.kind ≠ .asWord := fun hk => hstop.kind (by simp [hk])
  have hparen : s'.current.kind ≠ .leftParen := fun hk => hstop.kind (by simp [hk])
  obtain @⟨_, _, arguments, _, _, hname, hargs, halias⟩ := h
  rw [List.cons_append] at hts
  obtain ⟨rfl, hts⟩ := hts
  obtain ⟨s₁, hargs', halias'⟩ := reads_append.1 hts
  have hk : (decide (s.current.kind ≠ .word) && decide (s.current.kind ≠ .function)) = false := by
    rcases hname with h | h <;> simp [h]
  simp only [readSource, bind_peek, hk, Bool.false_eq_true, if_false, bind_advance, bind_check]
  cases hargs with
  | absent =>
    cases hargs'
    -- The alias comes next, or what stops the clause.
    have hnone : s.tail.current.kind ≠ .leftParen := by
      cases halias with
      | absent =>
        cases halias'
        exact hparen
      | present ht => simp [halias'.1, ht]
    rw [if_neg (by simpa using hnone)]
    exact withAlias_complete halias halias' has "a source alias"
      fun aliased => (⟨s.current.text, [], aliased⟩ : Source)
  | present hargs =>
    obtain ⟨o, us, rfl, hopen⟩ := hargs.exists_head
    rw [← hargs'.1] at hopen
    rw [if_pos (decide_eq_true hopen), bind_of_ok (readCall_complete hs.tail hargs hargs' _)]
    exact withAlias_complete halias halias' has "a source alias"
      fun aliased => (⟨s.current.text, arguments, aliased⟩ : Source)

theorem readOperand_complete {ts : List Token} {v : String} (h : Operand ts v)
    (hts : s.Reads ts s') : readOperand s = .ok v s' := by
  cases h with
  | plain h =>
    obtain ⟨rfl, rfl⟩ := hts
    rcases h with h | h | h <;>
      simp only [readOperand, bind_peek, bind_advance, h, pure_eq_ok, and_self]
  | negative hm h =>
    obtain ⟨rfl, rfl, rfl⟩ := hts
    simp only [readOperand, bind_peek, bind_advance, hm, bind_expect_eq_ok, h, pure_eq_ok, and_self]

theorem readPredicate_complete {ts : List Token} {p : Predicate} (h : Comparing ts p)
    (hts : s.Reads ts s') : readPredicate s = .ok (p.field, p.operator, p.operand) s' := by
  obtain ⟨hf, ho, hoperand⟩ := h
  obtain ⟨rfl, rfl, hts⟩ := hts
  have hop := comparison?_eq_some_iff.2 ho
  simp only [readPredicate, bind_expect_eq_ok, hf, bind_peek, hop, bind_advance, true_and]
  exact bind_of_ok (readOperand_complete hoperand hts) _

theorem predicatesWithin_complete {d : Dialect σ} {ts : List Token} {ps : List Predicate}
    (h : Separated .andWord Comparing ts ps) (hts : s.Reads ts s') (hstop : Stops d s')
    (hb : ts.length < bound) (r : Request) :
    predicatesWithin d bound r s = .ok (ps.foldl (Request.record d.recording) r) s' := by
  induction h generalizing s bound r with
  | single hp =>
    cases bound with
    | zero => omega
    | succ bound =>
      rw [predicatesWithin, bind_of_ok (readPredicate_complete hp hts)]
      simp only [bind_peek]
      have hkind := hstop.kind
      generalize s'.current.kind = kind at hkind
      split
      · simp at hkind
      · simp at hkind
      · rw [if_pos hstop.ends]
        rfl
  | @cons ts p t us ps hp ht _ ih =>
    obtain ⟨s₁, hts₁, rfl, hus⟩ := reads_append.1 hts
    simp only [List.length_append, List.length_cons] at hb
    cases bound with
    | zero => omega
    | succ bound =>
      rw [predicatesWithin, bind_of_ok (readPredicate_complete hp hts₁)]
      simp only [bind_peek, ht, bind_advance]
      exact ih hus (by omega) _

theorem readLimit_complete {ts : List Token} {n : Nat} (h : RowCount ts n) (hts : s.Reads ts s') :
    readLimit s = .ok n s' := by
  obtain ⟨hk, hne, hall, hlt⟩ := h
  obtain ⟨rfl, rfl⟩ := hts
  obtain ⟨c, cs, hcs⟩ := List.exists_cons_of_ne_nil hne
  have hc : c.isDigit = true := by
    rw [hcs, List.all_cons, Bool.and_eq_true] at hall
    exact hall.1
  have hread := (Decimal.readNat?_eq_some_iff hcs hc).2 ⟨hall, hlt, rfl⟩
  simp only [readLimit, bind_expect_eq_ok, hk, hread, pure_eq_ok, and_self]

end RowSieve

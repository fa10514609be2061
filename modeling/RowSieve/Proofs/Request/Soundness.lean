import RowSieve.Proofs.Request.Denotation
import RowSieve.Proofs.Token.Stream
import RowSieve.Request.Parser

/-!
# Statements that are read are grammatical

Whatever a reader of a statement takes from a stream is a phrase of the grammar, and the result of
the reader is what the phrase stands for.  There is one statement for each reader; those of calls
are proved together, by induction on the bound (`callsSound`).
-/

namespace RowSieve

open TokenStream Phrase

variable {σ : Type} {s s' : TokenStream}

/-! ### Calls -/

/-- What is read with a bound is a phrase. -/
structure CallsSound (bound : Nat) : Prop where
  /-- The arguments of a call. -/
  call : ∀ {s s' : TokenStream} {name n}, s.Fit → callWithin bound name s = .ok n s' →
    ∃ ts arguments, s.Reads ts s' ∧ Parenthesized Argument ts arguments ∧ n = .call name arguments
  /-- Arguments up to the closing parenthesis. -/
  arguments : ∀ {s s' : TokenStream} {ns}, s.Fit → argumentsWithin bound s = .ok ns s' →
    ∃ ts c, s.Reads (ts ++ [c]) s' ∧ Separated .comma Argument ts ns ∧ c.kind = .rightParen
  /-- An argument. -/
  argument : ∀ {s s' : TokenStream} {n}, s.Fit → argumentWithin bound s = .ok n s' →
    ∃ ts, s.Reads ts s' ∧ Argument ts n

theorem CallsSound.zero : CallsSound 0 where
  call _ hn := absurd hn fail_ne_ok
  arguments _ hn := absurd hn fail_ne_ok
  argument _ hn := absurd hn fail_ne_ok

/-- A word or a function on its own is a field; but a function is never on its own. -/
theorem CallsSound.argument_of_head {bound : Nat} (h : CallsSound bound) (hs : s.Fit) {n : Node}
    (hk : s.current.kind = .word ∨ s.current.kind = .function)
    (hn : (if decide (s.tail.current.kind = .leftParen) then callWithin bound s.current.text
      else pure (.field s.current.text)) s.tail = .ok n s') :
    ∃ ts, s.Reads ts s' ∧ Argument ts n := by
  by_cases hparen : s.tail.current.kind = .leftParen
  · rw [if_pos (decide_eq_true hparen)] at hn
    obtain ⟨ts, arguments, hts, hargs, rfl⟩ := h.call hs.tail hn
    exact ⟨s.current :: ts, ⟨rfl, hts⟩, .call hk hargs⟩
  · rw [if_neg (by simpa using hparen)] at hn
    obtain ⟨rfl, rfl⟩ := pure_eq_ok.1 hn
    have hword : s.current.kind = .word :=
      hk.resolve_right fun hf => hparen (hs.kind_current_tail hf)
    exact ⟨[s.current], ⟨rfl, rfl⟩, .field hword⟩

theorem CallsSound.argument_succ {bound : Nat} (h : CallsSound bound) (hs : s.Fit) {n : Node}
    (hn : argumentWithin (bound + 1) s = .ok n s') : ∃ ts, s.Reads ts s' ∧ Argument ts n := by
  simp only [argumentWithin, bind_peek] at hn
  generalize hk : s.current.kind = kind at hn
  split at hn
  · exact h.argument_of_head hs (.inr hk) hn
  · exact h.argument_of_head hs (.inl hk) hn
  · simp only [bind_advance, pure_eq_ok] at hn
    obtain ⟨rfl, rfl⟩ := hn
    exact ⟨[s.current], ⟨rfl, rfl⟩, .number hk⟩
  · simp only [bind_advance, pure_eq_ok] at hn
    obtain ⟨rfl, rfl⟩ := hn
    exact ⟨[s.current], ⟨rfl, rfl⟩, .text hk⟩
  · simp only [bind_advance, bind_expect_eq_ok, pure_eq_ok] at hn
    obtain ⟨hnumber, rfl, rfl⟩ := hn
    exact ⟨[s.current, s.tail.current], ⟨rfl, rfl, rfl⟩, .negative hk hnumber⟩
  · exact absurd hn fail_ne_ok

theorem CallsSound.arguments_succ {bound : Nat} (h : CallsSound bound) (hs : s.Fit)
    {ns : List Node} (hn : argumentsWithin (bound + 1) s = .ok ns s') :
    ∃ ts c, s.Reads (ts ++ [c]) s' ∧ Separated .comma Argument ts ns ∧ c.kind = .rightParen := by
  obtain ⟨first, s₁, hfirst, hn⟩ := bind_eq_ok.1 hn
  obtain ⟨ts, hts, harg⟩ := h.argument hs hfirst
  by_cases hcomma : s₁.current.kind = .comma
  · rw [bind_eat_of_kind hcomma] at hn
    obtain ⟨rest, s₂, hrest, hn⟩ := bind_eq_ok.1 hn
    obtain ⟨rfl, rfl⟩ := pure_eq_ok.1 hn
    obtain ⟨us, c, hus, hargs, hc⟩ := h.arguments (hs.reads hts).tail hrest
    refine ⟨ts ++ s₁.current :: us, c, ?_, .cons harg hcomma hargs, hc⟩
    rw [List.append_assoc]
    exact hts.append ⟨rfl, hus⟩
  · rw [bind_eat_of_kind_ne hcomma] at hn
    obtain ⟨hc, hn⟩ := bind_expect_eq_ok.1 hn
    obtain ⟨rfl, rfl⟩ := pure_eq_ok.1 hn
    exact ⟨ts, s₁.current, hts.append ⟨rfl, rfl⟩, .single harg, hc⟩

theorem CallsSound.call_succ {bound : Nat} (h : CallsSound bound) (hs : s.Fit) {name : String}
    {n : Node} (hn : callWithin (bound + 1) name s = .ok n s') :
    ∃ ts arguments, s.Reads ts s' ∧ Parenthesized Argument ts arguments ∧
      n = .call name arguments := by
  obtain ⟨hopen, hn⟩ := bind_expect_eq_ok.1 hn
  by_cases hclose : s.tail.current.kind = .rightParen
  · rw [bind_eat_of_kind hclose] at hn
    obtain ⟨rfl, rfl⟩ := pure_eq_ok.1 hn
    exact ⟨[s.current, s.tail.current], [], ⟨rfl, rfl, rfl⟩, .empty hopen hclose, rfl⟩
  · rw [bind_eat_of_kind_ne hclose] at hn
    obtain ⟨ns, s₁, hns, hn⟩ := bind_eq_ok.1 hn
    obtain ⟨rfl, rfl⟩ := pure_eq_ok.1 hn
    obtain ⟨ts, c, hts, hargs, hc⟩ := h.arguments hs.tail hns
    exact ⟨s.current :: ts ++ [c], ns, ⟨rfl, hts⟩, .filled hopen hargs hc, rfl⟩

theorem callsSound (bound : Nat) : CallsSound bound := by
  induction bound with
  | zero => exact .zero
  | succ bound ih => exact ⟨fun hs hn => ih.call_succ hs hn, fun hs hn => ih.arguments_succ hs hn,
      fun hs hn => ih.argument_succ hs hn⟩

theorem readCall_sound (hs : s.Fit) {name : String} {n : Node} (h : readCall name s = .ok n s') :
    ∃ ts arguments, s.Reads ts s' ∧ Parenthesized Argument ts arguments ∧
      n = .call name arguments := (callsSound _).call hs h

/-! ### Clauses -/

/-- What is made of an alias, where there may be one. -/
def withAlias {α : Type} (expected : String) (result : Option String → α) : Parse α := do
  if (← eat .asWord).isSome then
    let aliased ← expect .word expected
    return result (some aliased.text)
  return result none

theorem withAlias_sound {α : Type} {expected : String} {result : Option String → α} {a : α}
    (h : withAlias expected result s = .ok a s') :
    ∃ ts aliased, s.Reads ts s' ∧ Optionally .asWord Word ts aliased ∧ result aliased = a := by
  by_cases has : s.current.kind = .asWord
  · rw [withAlias, bind_eat_of_kind has] at h
    obtain ⟨hword, h⟩ := bind_expect_eq_ok.1 h
    obtain ⟨rfl, rfl⟩ := pure_eq_ok.1 h
    exact ⟨[s.current, s.tail.current], _, ⟨rfl, rfl, rfl⟩, .present has (.intro hword), rfl⟩
  · rw [withAlias, bind_eat_of_kind_ne has] at h
    obtain ⟨rfl, rfl⟩ := pure_eq_ok.1 h
    exact ⟨[], none, rfl, .absent, rfl⟩

theorem readColumnSource_sound (hs : s.Fit) {c : Column} (h : readColumnSource s = .ok c s') :
    ∃ ts, s.Reads ts s' ∧ ColumnSource ts c := by
  simp only [readColumnSource, bind_peek] at h
  generalize hk : s.current.kind = kind at h
  split at h
  · exact absurd h throw_ne_ok
  · simp only [bind_advance, pure_eq_ok] at h
    obtain ⟨rfl, rfl⟩ := h
    exact ⟨[s.current], ⟨rfl, rfl⟩, .field hk⟩
  · rw [bind_advance] at h
    obtain ⟨n, s₁, hn, h⟩ := bind_eq_ok.1 h
    obtain ⟨rfl, rfl⟩ := pure_eq_ok.1 h
    obtain ⟨ts, arguments, hts, hargs, rfl⟩ := readCall_sound hs.tail hn
    exact ⟨s.current :: ts, ⟨rfl, hts⟩, .call hk hargs⟩
  · exact absurd h fail_ne_ok

theorem readColumn_sound (hs : s.Fit) {c : Column} (h : readColumn s = .ok c s') :
    ∃ ts, s.Reads ts s' ∧ ResultColumn ts c := by
  obtain ⟨column, s₁, hcolumn, h⟩ := bind_eq_ok.1 h
  obtain ⟨ts, hts, hsource⟩ := readColumnSource_sound hs hcolumn
  have hc : withAlias "a column alias" (aliasColumn column) s₁ = .ok c s' := h
  obtain ⟨us, aliased, hus, halias, rfl⟩ := withAlias_sound hc
  exact ⟨ts ++ us, hts.append hus, .intro hsource halias⟩

theorem columnsWithin_sound {d : Dialect σ} {bound : Nat} (hs : s.Fit) {cs : List Column}
    (h : columnsWithin d bound s = .ok cs s') :
    ∃ ts, s.Reads ts s' ∧ Separated .comma ResultColumn ts cs := by
  induction bound generalizing s cs with
  | zero => exact absurd h fail_ne_ok
  | succ bound ih =>
    obtain ⟨column, s₁, hcolumn, h⟩ := bind_eq_ok.1 h
    obtain ⟨ts, hts, hphrase⟩ := readColumn_sound hs hcolumn
    by_cases hcomma : s₁.current.kind = .comma
    · rw [bind_eat_of_kind hcomma] at h
      obtain ⟨rest, s₂, hrest, h⟩ := bind_eq_ok.1 h
      obtain ⟨rfl, rfl⟩ := pure_eq_ok.1 h
      obtain ⟨us, hus, hcolumns⟩ := ih (hs.reads hts).tail hrest
      exact ⟨ts ++ s₁.current :: us, hts.append ⟨rfl, hus⟩, .cons hphrase hcomma hcolumns⟩
    · simp only [bind_eat_of_kind_ne hcomma, Option.isSome_none, Bool.false_eq_true, if_false,
        bind_peek] at h
      split at h
      · obtain ⟨rfl, rfl⟩ := pure_eq_ok.1 h
        exact ⟨ts, hts, .single hphrase⟩
      · exact absurd h fail_ne_ok

theorem readOperand_sound {v : String} (h : readOperand s = .ok v s') :
    ∃ ts, s.Reads ts s' ∧ Operand ts v := by
  simp only [readOperand, bind_peek] at h
  generalize hk : s.current.kind = kind at h
  split at h
  · simp only [bind_advance, pure_eq_ok] at h
    obtain ⟨rfl, rfl⟩ := h
    exact ⟨[s.current], ⟨rfl, rfl⟩, .plain (.inl hk)⟩
  · simp only [bind_advance, pure_eq_ok] at h
    obtain ⟨rfl, rfl⟩ := h
    exact ⟨[s.current], ⟨rfl, rfl⟩, .plain (.inr (.inl hk))⟩
  · simp only [bind_advance, pure_eq_ok] at h
    obtain ⟨rfl, rfl⟩ := h
    exact ⟨[s.current], ⟨rfl, rfl⟩, .plain (.inr (.inr hk))⟩
  · simp only [bind_advance, bind_expect_eq_ok, pure_eq_ok] at h
    obtain ⟨hnumber, rfl, rfl⟩ := h
    exact ⟨[s.current, s.tail.current], ⟨rfl, rfl, rfl⟩, .negative hk hnumber⟩
  · exact absurd h fail_ne_ok

theorem readSource_sound (hs : s.Fit) {source : Source} (h : readSource s = .ok source s') :
    ∃ ts, s.Reads ts s' ∧ RowSource ts source := by
  simp only [readSource, bind_peek] at h
  split at h
  next =>
    obtain ⟨t, s₁, ht, -⟩ := bind_eq_ok.1 h
    exact absurd ht fail_ne_ok
  next hk =>
    have hname : s.current.kind = .word ∨ s.current.kind = .function := by
      simpa [Decidable.or_iff_not_imp_left] using hk
    simp only [bind_advance, bind_check] at h
    by_cases hparen : s.tail.current.kind = .leftParen
    · rw [if_pos (decide_eq_true hparen)] at h
      obtain ⟨n, s₁, hn, h⟩ := bind_eq_ok.1 h
      obtain ⟨ts, arguments, hts, hargs, rfl⟩ := readCall_sound hs.tail hn
      have hsource : withAlias "a source alias" (⟨s.current.text, arguments, ·⟩) s₁ =
          .ok source s' := h
      obtain ⟨us, aliased, hus, halias, rfl⟩ := withAlias_sound hsource
      exact ⟨s.current :: ts ++ us, ⟨rfl, hts.append hus⟩, .intro hname (.present hargs) halias⟩
    · rw [if_neg (by simpa using hparen)] at h
      have hsource : withAlias "a source alias" (⟨s.current.text, [], ·⟩) s.tail =
          .ok source s' := h
      obtain ⟨us, aliased, hus, halias, rfl⟩ := withAlias_sound hsource
      exact ⟨s.current :: us, ⟨rfl, hus⟩, .intro hname .absent halias⟩

theorem readPredicate_sound {p : String × Operator × String} (h : readPredicate s = .ok p s') :
    ∃ ts, s.Reads ts s' ∧ Comparing ts ⟨p.1, p.2.1, p.2.2⟩ := by
  simp only [readPredicate, bind_expect_eq_ok, bind_peek] at h
  obtain ⟨hword, h⟩ := h
  cases hop : Operator.comparison? s.tail.current.kind with
  | none =>
    rw [hop] at h
    exact absurd h fail_ne_ok
  | some operator =>
    simp only [hop, bind_advance] at h
    obtain ⟨v, s₁, hv, h⟩ := bind_eq_ok.1 h
    obtain ⟨rfl, rfl⟩ := pure_eq_ok.1 h
    obtain ⟨ts, hts, hoperand⟩ := readOperand_sound hv
    have ho : ComparisonOperator s.tail.current operator := comparison?_eq_some_iff.1 hop
    exact ⟨s.current :: s.tail.current :: ts, ⟨rfl, rfl, hts⟩, .intro hword ho hoperand⟩

theorem predicatesWithin_sound {d : Dialect σ} {bound : Nat} {r r' : Request}
    (h : predicatesWithin d bound r s = .ok r' s') :
    ∃ ts ps, s.Reads ts s' ∧ Separated .andWord Comparing ts ps ∧
      r' = ps.foldl (Request.record d.recording) r := by
  induction bound generalizing s r with
  | zero => exact absurd h fail_ne_ok
  | succ bound ih =>
    obtain ⟨p, s₁, hp, h⟩ := bind_eq_ok.1 h
    obtain ⟨ts, hts, hphrase⟩ := readPredicate_sound hp
    simp only [bind_peek] at h
    generalize hk : s₁.current.kind = kind at h
    split at h
    · rw [bind_advance] at h
      obtain ⟨us, ps, hus, hphrases, rfl⟩ := ih h
      exact ⟨ts ++ s₁.current :: us, _ :: ps, hts.append ⟨rfl, hus⟩, .cons hphrase hk hphrases, rfl⟩
    · exact absurd h throw_ne_ok
    · split at h
      · obtain ⟨rfl, rfl⟩ := pure_eq_ok.1 h
        exact ⟨ts, [_], hts, .single hphrase, rfl⟩
      · exact absurd h fail_ne_ok

theorem readLimit_sound (hs : s.Fit) {n : Nat} (h : readLimit s = .ok n s') :
    ∃ ts, s.Reads ts s' ∧ RowCount ts n := by
  obtain ⟨hk, h⟩ := bind_expect_eq_ok.1 h
  obtain ⟨c, cs, hcs, hc⟩ := (hs.numeral hk).exists_digit
  cases hread : Decimal.readNat? 64 s.current.text with
  | none =>
    simp only [hread] at h
    exact absurd h throw_ne_ok
  | some n' =>
    simp only [hread, pure_eq_ok] at h
    obtain ⟨rfl, rfl⟩ := h
    obtain ⟨hall, hlt, rfl⟩ := (Decimal.readNat?_eq_some_iff hcs hc).1 hread
    exact ⟨[s.current], ⟨rfl, rfl⟩, .intro hk (by simp [hcs]) hall hlt⟩

end RowSieve

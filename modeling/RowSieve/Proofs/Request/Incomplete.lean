import RowSieve.Proofs.Request.Soundness
import RowSieve.Request.Parser

/-!
# Where statements are left incomplete

The error `SourceError.trailing` says that a statement is complete and the source goes on behind it.
No reader of clauses says so: where it fails, the statement is not complete (`Parse.Incomplete`).
There is one lemma for each way to put readers together and one for each reader, up to
`incomplete_readStatement`.
-/

namespace RowSieve

open TokenStream Phrase

/-- The error is that the source goes on behind a statement. -/
def SourceError.IsTrailing (e : SourceError) : Prop := ∃ token, e = .trailing token

/-- Where the reader fails, it is not since the source goes on. -/
def Parse.Incomplete {α : Type} (p : Parse α) : Prop :=
  ∀ s e t, p s = .error e t → ¬ e.IsTrailing

namespace Parse

variable {σ α β : Type} {p : Parse α} {e : SourceError}

/-! ### Basic readers -/

theorem Incomplete.bind {f : α → Parse β} (hp : p.Incomplete) (hf : ∀ a, (f a).Incomplete) :
    (p >>= f).Incomplete := by
  intro s e t h
  change EStateM.bind p f s = _ at h
  unfold EStateM.bind at h
  cases hrun : p s with
  | ok a u =>
    rw [hrun] at h
    exact hf a u e t h
  | error e' u =>
    rw [hrun] at h
    cases h
    exact hp s _ _ hrun

theorem incomplete_pure (a : α) : (pure a : Parse α).Incomplete := fun _ _ _ h => nomatch h

theorem incomplete_throw (he : ¬ e.IsTrailing) : (throw e : Parse α).Incomplete := by
  intro s e' t h
  cases h
  exact he

theorem incomplete_peek : peek.Incomplete := fun _ _ _ h => nomatch h

theorem incomplete_advance : advance.Incomplete := fun _ _ _ h => nomatch h

theorem incomplete_remaining : remaining.Incomplete := fun _ _ _ h => nomatch h

theorem incomplete_takeComments : takeComments.Incomplete := fun _ _ _ h => nomatch h

theorem incomplete_fail (expected : String) : (fail expected : Parse α).Incomplete :=
  incomplete_peek.bind fun _ => incomplete_throw nofun

theorem incomplete_check (kind : Kind) : (check kind).Incomplete :=
  incomplete_peek.bind fun _ => incomplete_pure _

theorem incomplete_eat (kind : Kind) : (eat kind).Incomplete := by
  refine (incomplete_check kind).bind fun found => ?_
  split
  · exact incomplete_advance.bind fun _ => incomplete_pure _
  · exact incomplete_pure _

theorem incomplete_expect (kind : Kind) (expected : String) :
    (expect kind expected).Incomplete := by
  refine (incomplete_eat kind).bind fun token? => ?_
  cases token? with
  | some token => exact incomplete_pure _
  | none => exact incomplete_fail expected

/-- What is read if a token of a kind comes next, or else without it. -/
theorem Incomplete.eat_isSome {kind : Kind} {q : Parse α} (hp : p.Incomplete)
    (hq : q.Incomplete) : (do if (← eat kind).isSome then p else q).Incomplete := by
  refine (incomplete_eat kind).bind fun token? => ?_
  split
  · exact hp
  · exact hq

/-! ### Bodies of clauses -/

theorem incomplete_calls (bound : Nat) :
    (∀ name, (callWithin bound name).Incomplete) ∧ (argumentsWithin bound).Incomplete ∧
      (argumentWithin bound).Incomplete := by
  induction bound with
  | zero => exact ⟨fun _ => incomplete_fail _, incomplete_fail _, incomplete_fail _⟩
  | succ bound ih =>
    obtain ⟨hcall, harguments, hargument⟩ := ih
    refine ⟨fun name => ?call, ?arguments, ?argument⟩
    case call =>
      refine (incomplete_expect _ _).bind fun _ => ?_
      exact .eat_isSome (incomplete_pure _) (harguments.bind fun _ => incomplete_pure _)
    case arguments =>
      refine hargument.bind fun _ => ?_
      refine .eat_isSome (harguments.bind fun _ => incomplete_pure _) ?_
      exact (incomplete_expect _ _).bind fun _ => incomplete_pure _
    case argument =>
      have hname (text : String) : (do
          let _ ← advance
          if (← check .leftParen) then callWithin bound text
          else return .field text : Parse Node).Incomplete := by
        refine incomplete_advance.bind fun _ => (incomplete_check _).bind fun found => ?_
        split
        · exact hcall text
        · exact incomplete_pure _
      refine incomplete_peek.bind fun token => ?_
      split
      · exact hname token.text
      · exact hname token.text
      · exact incomplete_advance.bind fun _ => incomplete_pure _
      · exact incomplete_advance.bind fun _ => incomplete_pure _
      · refine incomplete_advance.bind fun _ => ?_
        exact (incomplete_expect _ _).bind fun _ => incomplete_pure _
      · exact incomplete_fail _

theorem incomplete_readCall (name : String) : (readCall name).Incomplete :=
  incomplete_remaining.bind fun _ => (incomplete_calls _).1 name

theorem incomplete_readColumnSource : readColumnSource.Incomplete := by
  refine incomplete_peek.bind fun token => ?_
  split
  · exact incomplete_throw nofun
  · exact incomplete_advance.bind fun _ => incomplete_pure _
  · refine incomplete_advance.bind fun _ => ?_
    exact (incomplete_readCall _).bind fun _ => incomplete_pure _
  · exact incomplete_fail _

theorem incomplete_withAlias (expected : String) (result : Option String → α) :
    (withAlias expected result).Incomplete := by
  refine .eat_isSome ?_ (incomplete_pure _)
  exact (incomplete_expect _ _).bind fun _ => incomplete_pure _

theorem incomplete_columnsWithin (d : Dialect σ) (bound : Nat) :
    (columnsWithin d bound).Incomplete := by
  induction bound with
  | zero => exact incomplete_fail _
  | succ bound ih =>
    have hcolumn : readColumn.Incomplete := incomplete_readColumnSource.bind fun column =>
      incomplete_withAlias "a column alias" (aliasColumn column)
    refine hcolumn.bind fun _ => .eat_isSome (ih.bind fun _ => incomplete_pure _) ?_
    refine incomplete_peek.bind fun token => ?_
    split
    · exact incomplete_pure _
    · exact incomplete_fail _

theorem incomplete_readSource : readSource.Incomplete := by
  have halias (name : String) (arguments : List Node) : Incomplete _ :=
    incomplete_withAlias "a source alias" (Source.mk name arguments)
  refine incomplete_peek.bind fun token => ?_
  split
  · exact incomplete_fail _
  · refine incomplete_advance.bind fun _ => (incomplete_check _).bind fun found => ?_
    split
    · refine (incomplete_readCall _).bind fun node => ?_
      cases node with
      | call _ arguments => exact halias token.text arguments
      | field _ => exact halias token.text []
      | number _ => exact halias token.text []
      | text _ => exact halias token.text []
    · exact halias token.text []

theorem incomplete_readOperand : readOperand.Incomplete := by
  refine incomplete_peek.bind fun token => ?_
  split
  · exact incomplete_advance.bind fun _ => incomplete_pure _
  · exact incomplete_advance.bind fun _ => incomplete_pure _
  · exact incomplete_advance.bind fun _ => incomplete_pure _
  · refine incomplete_advance.bind fun _ => ?_
    exact (incomplete_expect _ _).bind fun _ => incomplete_pure _
  · exact incomplete_fail _

theorem incomplete_readPredicate : readPredicate.Incomplete := by
  refine (incomplete_expect _ _).bind fun _ => incomplete_peek.bind fun token => ?_
  split
  · exact incomplete_fail _
  · refine incomplete_advance.bind fun _ => ?_
    exact incomplete_readOperand.bind fun _ => incomplete_pure _

theorem incomplete_predicatesWithin (d : Dialect σ) (bound : Nat) (r : Request) :
    (predicatesWithin d bound r).Incomplete := by
  induction bound generalizing r with
  | zero => exact incomplete_fail _
  | succ bound ih =>
    refine incomplete_readPredicate.bind fun _ => incomplete_peek.bind fun next => ?_
    split
    · exact incomplete_advance.bind fun _ => ih _
    · exact incomplete_throw nofun
    · split
      · exact incomplete_pure _
      · exact incomplete_fail _

theorem incomplete_readLimit : readLimit.Incomplete := by
  refine (incomplete_expect _ _).bind fun token => ?_
  split
  · exact incomplete_pure _
  · exact incomplete_throw nofun

theorem incomplete_read (d : Dialect σ) (body : Body) (r : Request) :
    (body.read d r).Incomplete := by
  refine incomplete_remaining.bind fun _ => ?_
  cases body with
  | columns => exact (incomplete_columnsWithin d _).bind fun _ => incomplete_pure _
  | source => exact incomplete_readSource.bind fun _ => incomplete_pure _
  | predicates => exact incomplete_predicatesWithin d _ r
  | limit => exact incomplete_readLimit.bind fun _ => incomplete_pure _

/-! ### Statements -/

theorem incomplete_readClauses (d : Dialect σ) (clauses : List (Clause σ)) (r : Request) :
    (readClauses d clauses r).Incomplete := by
  induction clauses generalizing r with
  | nil => exact incomplete_pure _
  | cons clause clauses ih =>
    refine (incomplete_check _).bind fun found => ?_
    split
    · refine incomplete_advance.bind fun _ => ?_
      exact (incomplete_read d clause.body r).bind fun _ => ih _
    · split
      · exact ih r
      · exact incomplete_peek.bind fun _ => incomplete_throw nofun

/-- **Where a statement cannot be read, it is not complete.** -/
theorem incomplete_readStatement (d : Dialect σ) : (readStatement d).Incomplete := by
  refine incomplete_peek.bind fun first => ?_
  split
  · exact incomplete_throw nofun
  · refine (incomplete_readClauses d _ _).bind fun _ => ?_
    exact incomplete_takeComments.bind fun _ => incomplete_pure _

end Parse

end RowSieve

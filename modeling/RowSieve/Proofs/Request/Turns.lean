import RowSieve.Proofs.Request.Forward

/-!
# Turns of loops

Statements, columns and predicates are read in loops, and so are semicolons and what a lenient
reader passes over.  The readers have bounds, and `Parse.Loops` describes a loop without one, turn
by turn.  A turn after which a loop goes on takes at least one token, and so the loop has a last
turn, long before the bound is used up (`Parse.Terminates`).

Each loop gets its turn, an equation that says that the reader is this turn and then the loop again,
and the tokens that the turn takes.  That a statement takes one needs clauses of which the first
opens the statement.
-/

namespace RowSieve

open TokenStream

/-- A stream stands at a position in a list of tokens, or behind the last of them. -/
structure TokenStream.At (tokens : List Token) (position : Nat) (s : TokenStream) : Prop where
  /-- The position is in the list, or right behind it. -/
  le : position ≤ tokens.length
  /-- The tokens from there on are left. -/
  rest : s.rest = tokens.drop position
  /-- After the last token, the end of the input is shown. -/
  last : s.last.kind = .endOfInput

namespace Parse

variable {σ α β : Type} {p q : Parse α} {f g : α → Parse β} {d : Dialect σ} {s t : TokenStream}
  {tokens : List Token} {position k n : Nat}

/-! ### Positions -/

theorem length_at (h : s.At tokens position) : position + s.rest.length = tokens.length := by
  have hle := h.le
  rw [h.rest, List.length_drop]
  omega

/-- What is left of a stream stands further on in the same list. -/
theorem exists_at_of_behind (h : s.At tokens position) (ht : t.Behind s) :
    ∃ position', position ≤ position' ∧ t.At tokens position' ∧
      (t.rest.length < s.rest.length → position < position') := by
  have hs := length_at h
  have hle := ht.rest.length_le
  have hsuffix : t.rest <:+ tokens := ht.rest.trans (h.rest ▸ List.drop_suffix _ _)
  refine ⟨tokens.length - t.rest.length, by omega, ⟨Nat.sub_le _ _, ?_, ht.last ▸ h.last⟩, by omega⟩
  exact List.suffix_iff_eq_drop.1 hsuffix

theorem exists_at_ofTokensUpTo (tokens : List Token) (finish : Nat) :
    ∃ position, (ofTokensUpTo tokens finish).At tokens position := by
  have hstart : TokenStream.At tokens 0 ⟨tokens, [], ⟨.endOfInput, "", finish⟩⟩ :=
    ⟨Nat.zero_le _, rfl, rfl⟩
  obtain ⟨position, -, h, -⟩ := exists_at_of_behind hstart (t := ofTokensUpTo tokens finish)
    ⟨rfl, List.dropWhile_suffix _⟩
  exact ⟨position, h⟩

/-! ### Loops -/

theorem bind_of_error {e : SourceError} (h : p s = .error e t) (f : α → Parse β) :
    (p >>= f) s = .error e t := by
  change EStateM.bind p f s = _
  simp only [EStateM.bind, h]

/-- So many turns of a loop, one after the other.  A turn starts with what the one before has
gathered, and it says whether the loop goes on.  The last one ends the loop, or it fails. -/
inductive Loops (turn : α → Parse (α × Bool)) :
    Nat → α → TokenStream → EStateM.Result SourceError TokenStream α → Prop where
  /-- The loop ends with this turn. -/
  | ends {a b : α} {s t : TokenStream} : turn a s = .ok (b, false) t → Loops turn 1 a s (.ok b t)
  /-- This turn fails. -/
  | fails {a : α} {s t : TokenStream} {e : SourceError} :
    turn a s = .error e t → Loops turn 1 a s (.error e t)
  /-- The loop goes on after this turn. -/
  | goesOn {count : Nat} {a b : α} {s t : TokenStream}
    {result : EStateM.Result SourceError TokenStream α} :
    turn a s = .ok (b, true) t → Loops turn count b t result → Loops turn (count + 1) a s result

/-- A loop over the tokens of a list comes to an end. -/
structure Terminates (tokens : List Token) (turn : α → Parse (α × Bool)) (loop : α → Parse α) :
    Prop where
  /-- A turn after which the loop goes on takes at least one token. -/
  takes : ∀ ⦃position s a b t⦄, s.At tokens position → turn a s = .ok (b, true) t →
    ∃ position', position < position' ∧ t.At tokens position'
  /-- There is a last turn, and there is at most one turn more than tokens are left. -/
  ends : ∀ ⦃position s⦄, s.At tokens position → ∀ a, ∃ count, position + count ≤ tokens.length + 1 ∧
    Loops turn count a s (loop a s)

/-- What comes after a turn: the loop, if it goes on. -/
def proceed (loop : α → Parse α) : α × Bool → Parse α
  | (a, true) => loop a
  | (a, false) => return a

section

variable {turn : α → Parse (α × Bool)} {loop : α → Parse α} {within : Nat → α → Parse α}
  (hforward : ∀ a, Forward (turn a))
  (htakes : ∀ ⦃s a b t⦄, s.last.kind = .endOfInput → turn a s = .ok (b, true) t →
    t.rest.length < s.rest.length)
  (hwithin : ∀ ⦃s⦄, s.last.kind = .endOfInput → ∀ k a, s.rest.length ≤ k →
    within (k + 1) a s = (turn a >>= proceed (within k)) s)

include hforward htakes hwithin

/-- The induction is on the bound, which is never used up. -/
theorem exists_loops (hlast : s.last.kind = .endOfInput) (hk : s.rest.length < k) (a : α) :
    ∃ count ≤ s.rest.length + 1, Loops turn count a s (within k a s) := by
  induction k generalizing s a with
  | zero => exact absurd hk (Nat.not_lt_zero _)
  | succ k ih =>
    rw [hwithin hlast k a (Nat.le_of_lt_succ hk)]
    cases h : turn a s with
    | error e t =>
      rw [bind_of_error h]
      exact ⟨1, by omega, .fails h⟩
    | ok x t =>
      obtain ⟨b, more⟩ := x
      rw [bind_of_ok h]
      cases more with
      | false => exact ⟨1, by omega, .ends h⟩
      | true =>
        have hlt := htakes hlast h
        have ht := (hforward a).behind h
        obtain ⟨count, hcount, hloops⟩ := ih (ht.last ▸ hlast) (by omega) b
        exact ⟨count + 1, by omega, .goesOn h hloops⟩

variable (within) in
/-- A loop with a bound terminates if it allows for one turn more than tokens are left. -/
theorem terminates (tokens : List Token)
    (hloop : ∀ ⦃s⦄, s.last.kind = .endOfInput → ∀ a, loop a s = within (s.rest.length + 1) a s) :
    Terminates tokens turn loop where
  takes position s a b t hs h := by
    obtain ⟨position', -, ht, hlt⟩ := exists_at_of_behind hs ((hforward a).behind h)
    exact ⟨position', hlt (htakes hs.last h), ht⟩
  ends position s hs a := by
    obtain ⟨count, hcount, hloops⟩ :=
      exists_loops hforward htakes hwithin hs.last (Nat.lt_succ_self _) a
    have hlength := length_at hs
    exact ⟨count, by omega, hloop hs.last a ▸ hloops⟩

end

/-! ### Columns and predicates -/

/-- Reads the comma in front of another column, or comes to the end of the columns. -/
def anotherColumn (d : Dialect σ) : Parse Bool := do
  if (← eat .comma).isSome then return true
  if endsClause d (← peek) then return false
  fail "',' or the end of the column list"

/-- One turn of the loop over columns. -/
def columnTurn (d : Dialect σ) (r : Request) : Parse (Request × Bool) := do
  let column ← readColumn
  return ({ r with columns := r.columns ++ [column] }, ← anotherColumn d)

/-- Reads the `AND` in front of another predicate, or comes to the end of the predicates. -/
def anotherPredicate (d : Dialect σ) : Parse Bool := do
  let next ← peek
  match next.kind with
  | .andWord =>
    let _ ← advance
    return true
  | .orWord => throw (.unsupported "OR predicates" next.position)
  | _ => if endsClause d next then return false else fail "AND or the end of the predicates"

/-- One turn of the loop over predicates. -/
def predicateTurn (d : Dialect σ) (r : Request) : Parse (Request × Bool) := do
  let (field, operator, operand) ← readPredicate
  return (r.addPredicate d.recording field operator operand, ← anotherPredicate d)

theorem forward_anotherColumn (d : Dialect σ) : Forward (anotherColumn d) := by
  refine forward_eat.bind fun comma => ?_
  split
  · exact forward_pure
  · refine forward_peek.bind fun token => ?_
    split
    · exact forward_pure
    · exact forward_fail

theorem forward_anotherPredicate (d : Dialect σ) : Forward (anotherPredicate d) := by
  refine forward_peek.bind fun next => ?_
  split
  · exact forward_advance.bind fun _ => forward_pure
  · exact forward_throw
  · split
    · exact forward_pure
    · exact forward_fail

theorem columnsWithin_succ (r : Request) :
    (do return { r with columns := r.columns ++ (← columnsWithin d (k + 1)) }) =
      columnTurn d r >>= proceed fun r => do
        return { r with columns := r.columns ++ (← columnsWithin d k) } := by
  simp only [columnsWithin, columnTurn, anotherColumn, bind_assoc]
  refine bind_congr fun column => bind_congr fun comma => ?_
  split
  · simp [proceed]
  · simp only [bind_assoc]
    refine bind_congr fun token => ?_
    split
    · simp [proceed]
    · rfl

theorem predicatesWithin_succ (r : Request) :
    predicatesWithin d (k + 1) r = predicateTurn d r >>= proceed (predicatesWithin d k) := by
  simp only [predicatesWithin, predicateTurn, anotherPredicate, bind_assoc]
  refine bind_congr fun found => bind_congr fun next => ?_
  generalize next.kind = kind
  split
  · rfl
  · rfl
  · split
    · simp [proceed]
    · simp
      rfl

theorem terminates_columns (d : Dialect σ) (tokens : List Token) :
    Terminates tokens (columnTurn d) (Body.columns.read d) := by
  have hrest (r : Request) (column : Column) : Forward (do
      return ({ r with columns := r.columns ++ [column] }, ← anotherColumn d)) :=
    (forward_anotherColumn d).bind fun _ => forward_pure
  refine terminates (fun k r => do return { r with columns := r.columns ++ (← columnsWithin d k) })
    ?_ ?_ (fun s _ k r _ => congrFun (columnsWithin_succ r) s) tokens fun s _ r => rfl
  · exact fun r => forward_readColumn.bind (hrest r)
  · exact fun s r _ _ hlast h => takes_readColumn.bind (hrest r) hlast h

theorem terminates_predicates (d : Dialect σ) (tokens : List Token) :
    Terminates tokens (predicateTurn d) (Body.predicates.read d) := by
  have hrest (r : Request) (found : String × Operator × String) : Forward (do
      return (r.addPredicate d.recording found.1 found.2.1 found.2.2, ← anotherPredicate d)) :=
    (forward_anotherPredicate d).bind fun _ => forward_pure
  refine terminates (predicatesWithin d) ?_ ?_
    (fun s _ k r _ => congrFun (predicatesWithin_succ r) s) tokens fun s _ r => rfl
  · exact fun r => forward_readPredicate.bind (hrest r)
  · exact fun s r _ _ hlast h => takes_readPredicate.bind (hrest r) hlast h

/-! ### Statements -/

/-- One turn of the loop over what a lenient reader passes over: a token, up to an end. -/
def skipTurn (_ : Unit) : Parse (Unit × Bool) := do
  if (← peek).isEnd then return ((), false)
  let _ ← advance
  return ((), true)

/-- One turn of the loop over semicolons. -/
def semicolonTurn (_ : Unit) : Parse (Unit × Bool) := do
  return ((), (← eat .endOfStatement).isSome)

/-- One turn of the loop over statements: one of them with its end, up to the end of the input. -/
def statementTurn (d : Dialect σ) (rs : List Request) : Parse (List Request × Bool) := do
  skipSemicolons (← remaining)
  if (← check .endOfInput) then return (rs, false)
  let r ← readStatement d
  finishStatement d
  return (rs ++ [r], true)

theorem length_tail_lt_of_isEnd (hlast : s.last.kind = .endOfInput)
    (hend : s.current.isEnd = false) : s.tail.rest.length < s.rest.length :=
  length_tail_lt (rest_ne_nil_of_kind_ne hlast fun hk => by simp [Token.isEnd, hk] at hend)

/-- One more turn makes no difference where the bound allows for all tokens left. -/
theorem skipToEnd_eq (hlast : s.last.kind = .endOfInput) (hk : s.rest.length ≤ k) :
    skipToEnd k s = skipToEnd (k + 1) s := by
  induction k generalizing s with
  | zero =>
    have hend : s.current.isEnd = true := by
      rw [current, List.length_eq_zero_iff.1 (Nat.le_zero.1 hk)]
      exact isEnd_of_kind hlast
    rw [skipToEnd_of_isEnd hend, skipToEnd_of_isEnd hend]
  | succ k ih =>
    cases hend : s.current.isEnd with
    | true => rw [skipToEnd_of_isEnd hend, skipToEnd_of_isEnd hend]
    | false =>
      have hlt := length_tail_lt_of_isEnd hlast hend
      have htail := ih (s := s.tail) hlast (by omega)
      rw [skipToEnd, skipToEnd, bind_peek, bind_peek, hend]
      exact htail

theorem skipToEnd_succ (k : Nat) (u : Unit) :
    skipToEnd (k + 1) = skipTurn u >>= proceed fun _ => skipToEnd k := by
  simp only [skipToEnd, skipTurn, bind_assoc]
  refine bind_congr fun token => ?_
  split
  · rfl
  · rfl

theorem terminates_skip (tokens : List Token) :
    Terminates tokens skipTurn (fun _ => do skipToEnd (← remaining)) := by
  refine terminates (fun k _ => skipToEnd k) ?_ ?_
    (fun s _ k u _ => congrFun (skipToEnd_succ k u) s) tokens
    fun s hlast _ => skipToEnd_eq hlast (Nat.le_refl _)
  · intro _
    refine forward_peek.bind fun token => ?_
    split
    · exact forward_pure
    · exact forward_advance.bind fun _ => forward_pure
  · intro s _ _ t hlast h
    rw [skipTurn, bind_peek] at h
    cases hend : s.current.isEnd with
    | true => simp [hend] at h
    | false =>
      rw [hend] at h
      cases h
      exact length_tail_lt_of_isEnd hlast hend

theorem skipSemicolons_succ (k : Nat) (u : Unit) :
    skipSemicolons (k + 1) = semicolonTurn u >>= proceed fun _ => skipSemicolons k := by
  simp only [skipSemicolons, semicolonTurn, bind_assoc, pure_bind]
  refine bind_congr fun found => ?_
  cases found with
  | none => rfl
  | some token => rfl

theorem terminates_semicolons (tokens : List Token) :
    Terminates tokens semicolonTurn (fun _ => do skipSemicolons (← remaining)) := by
  refine terminates (fun k _ => skipSemicolons k) ?_ ?_
    (fun s _ k u _ => congrFun (skipSemicolons_succ k u) s) tokens
    fun s hlast _ => skipSemicolons_eq hlast (Nat.le_refl _) (Nat.le_succ _)
  · exact fun _ => forward_eat.bind fun _ => forward_pure
  · intro s _ _ t hlast h
    by_cases hk : s.current.kind = .endOfStatement
    · rw [semicolonTurn, bind_eat_of_kind hk] at h
      cases h
      exact length_tail_lt (rest_ne_nil_of_kind hlast hk)
    · rw [semicolonTurn, bind_eat_of_kind_ne hk] at h
      cases h

theorem statementsWithin_succ (rs : List Request) :
    (do return rs ++ (← statementsWithin d (k + 1))) =
      statementTurn d rs >>= proceed fun rs => do return rs ++ (← statementsWithin d k) := by
  simp only [statementsWithin, statementTurn, bind_assoc]
  refine bind_congr fun _ => bind_congr fun _ => bind_congr fun finished => ?_
  split
  · simp [proceed]
  · simp only [bind_assoc, pure_bind, proceed]
    refine bind_congr fun r => bind_congr fun _ => bind_congr fun more => ?_
    rw [List.append_cons]

theorem terminates_statements
    (hfirst : ∀ st ∈ d.statements, ∃ c cs, st.clauses = c :: cs ∧ c.keyword = st.entry)
    (tokens : List Token) :
    Terminates tokens (statementTurn d) (fun rs => do return rs ++ (← allStatements d)) := by
  have hfinish (rs : List Request) (r : Request) : Forward (do
      finishStatement d
      return (rs ++ [r], true)) := (forward_finishStatement d).bind fun _ => forward_pure
  refine terminates (fun k rs => do return rs ++ (← statementsWithin d k)) ?_ ?_
    (fun s _ k rs _ => congrFun (statementsWithin_succ rs) s) tokens fun s _ rs => rfl
  · intro rs
    refine forward_remaining.bind fun _ => (forward_skipSemicolons _).bind fun _ =>
      forward_check.bind fun finished => ?_
    split
    · exact forward_pure
    · exact (forward_readStatement d).bind (hfinish rs)
  · intro s rs _ t hlast h
    -- There may be no semicolons in front; it is the statement that takes a token.
    rw [statementTurn, bind_remaining] at h
    obtain ⟨_, u, hskip, h⟩ := bind_eq_ok.1 h
    have hu := (forward_skipSemicolons _).behind hskip
    rw [bind_check] at h
    by_cases hk : u.current.kind = .endOfInput
    · simp [hk] at h
    · rw [if_neg (by simpa using hk)] at h
      have htakes := (takesFrom_readStatement hfirst (hu.last ▸ hlast) hk).bind (hfinish rs)
      exact Nat.lt_of_lt_of_le (htakes h) hu.rest.length_le

end Parse

end RowSieve

import RowSieve.Grammar.Dialect
import RowSieve.Token.Forward

/-!
# Scanning by clauses

A source is split into tokens by strategies that take turns.  The strategy between clauses looks
for keywords and hands over to the strategy of a clause right after the word that opens it; a
strategy inside a clause gives control back at the clause's end, in front of the token that ends
it.  A `Scan` is what they work on, `Scan.advance` lets a strategy take one step, and `Turn` says
who goes on.

`Relay.run` alternates until the end of the input.  A strategy may go on without taking
anything from the source only a few times; then the scan has stalled.  So every run ends, whatever
strategies a dialect brings: each step takes characters from the source or uses up some of the
patience that is left.
-/

namespace RowSieve

variable {σ : Type}

/-- A source while it is split into tokens. -/
structure Scan (σ : Type) where
  /-- The dialect whose keywords count. -/
  dialect : Dialect σ
  /-- The place in the source. -/
  cursor : Cursor
  /-- The tokens so far. -/
  tokens : Array Token
  /-- The statement that has been opened. -/
  statement : Option (Statement σ)

/-- Who goes on after a step. -/
inductive Turn (σ : Type) where
  /-- The same strategy. -/
  | again
  /-- Another strategy. -/
  | pass (strategy : Strategy σ)
  /-- The strategy between clauses, since the clause is complete. -/
  | back
  /-- Nobody. -/
  | stop

/-- What a strategy of a dialect does in one step. -/
structure Reaction (σ : Type) where
  /-- How many characters it takes from the source. -/
  taken : Nat
  /-- The tokens that it adds. -/
  emitted : List Token
  /-- Who goes on, if the step does not fail. -/
  turn : Except SourceError (Turn σ)

/-- The strategies that a dialect brings: their names and what they do. -/
class Strategies (σ : Type) where
  /-- The name in messages. -/
  name : σ → String
  /-- One step. -/
  advance : Scan σ → σ → Reaction σ

instance : Strategies Empty := ⟨nofun, fun _ => nofun⟩

/-- The name of a strategy in messages. -/
def Strategy.name [Strategies σ] : Strategy σ → String
  | statement => "statement"
  | list => "list"
  | other s => Strategies.name s

namespace Scan

/-- Nothing of the source has been read. -/
def start (dialect : Dialect σ) (source : String) : Scan σ := ⟨dialect, .start source, #[], none⟩

/-- Adds a token. -/
def emit (s : Scan σ) (token : Token) : Scan σ := { s with tokens := s.tokens.push token }

/-- The clause ends here: with the input, at a semicolon, or before a word that opens a clause. -/
def clauseEnds (s : Scan σ) : Bool :=
  let probe := s.cursor.skipBlanks
  probe.atEnd || probe.current? = some ';' ||
    ((probe.peekWord?.bind s.dialect.keyword?).any s.dialect.opensClause)

/-- Opens a statement with a keyword, unless one is open, and finds the clause that the keyword
opens in it. -/
def openClause (s : Scan σ) (keyword : Kind) : Option (Clause σ) × Scan σ :=
  let statement := s.statement.or (s.dialect.statement? keyword)
  (statement.bind (·.clause? keyword), { s with statement := statement })

/-- A step between clauses. -/
def statementStep (s : Scan σ) : Except SourceError (Turn σ) × Scan σ :=
  match s.cursor.next with
  | (.error e, cursor) => (.error e, { s with cursor := cursor })
  | (.ok token, cursor) =>
    let s := { s with cursor := cursor }
    match token.kind with
    | .endOfInput => (.ok .stop, s.emit token)
    | .endOfStatement => (.ok .again, { s.emit token with statement := none })
    | .word =>
      match s.dialect.keyword? token.text with
      | none => (.ok .again, s.emit token)
      | some kind =>
        match (s.emit { token with kind := kind }).openClause kind with
        | (some clause, s) => (.ok (.pass clause.strategy), s)
        | (none, s) => (.ok .again, s)
    | _ => (.ok .again, s.emit token)

/-- The kind of a word inside a clause: a function if a parenthesis comes right behind it, else
what it spells. -/
def wordKind (s : Scan σ) (word : String) : Kind :=
  if s.cursor.current? = some '(' then .function else (s.dialect.keyword? word).getD .word

/-- A step inside a clause. -/
def listStep (s : Scan σ) : Except SourceError (Turn σ) × Scan σ :=
  if s.clauseEnds then (.ok .back, s)
  else match s.cursor.next with
    | (.error e, cursor) => (.error e, { s with cursor := cursor })
    | (.ok token, cursor) =>
      let s := { s with cursor := cursor }
      let kind := if token.kind = .word then s.wordKind token.text else token.kind
      (.ok .again, s.emit { token with kind := kind })

/-- One step of a strategy. -/
def advance [Strategies σ] (s : Scan σ) : Strategy σ → Except SourceError (Turn σ) × Scan σ
  | .statement => s.statementStep
  | .list => s.listStep
  | .other strategy =>
    let reaction := Strategies.advance s strategy
    (reaction.turn,
      { s with
        cursor := s.cursor.skip reaction.taken
        tokens := s.tokens ++ reaction.emitted })

/-- The tokens of a finished scan: the end of the input is the last of them. -/
def finish (s : Scan σ) : List Token :=
  if s.tokens.back?.any fun t => t.kind = .endOfInput then s.tokens.toList
  else (s.emit ⟨.endOfInput, "", s.cursor.position⟩).tokens.toList

/-! ### Steps move forwards -/

theorem cursor_open (s : Scan σ) (keyword : Kind) :
    (s.openClause keyword).2.cursor = s.cursor := rfl

theorem cursor_emit (s : Scan σ) (token : Token) : (s.emit token).cursor = s.cursor := rfl

theorem cursor_statementStep (s : Scan σ) : s.statementStep.2.cursor = s.cursor.next.2 := by
  unfold statementStep
  split
  next h => simp [h]
  next token cursor h =>
    split
    · simp [emit, h]
    · simp [emit, h]
    · dsimp only
      split
      · simp [emit, h]
      · split
        next he => simpa [cursor_open, cursor_emit, h] using congrArg (·.2.cursor) he.symm
        next he => simpa [cursor_open, cursor_emit, h] using congrArg (·.2.cursor) he.symm
    · simp [emit, h]

theorem reaches_listStep (s : Scan σ) : s.cursor.Reaches s.listStep.2.cursor := by
  unfold listStep
  split
  · exact .refl _
  · have := s.cursor.reaches_next
    split
    next h => simpa [h] using this
    next h => simpa [h, emit] using this

theorem reaches_advance [Strategies σ] (s : Scan σ) (strategy : Strategy σ) :
    s.cursor.Reaches (s.advance strategy).2.cursor := by
  cases strategy with
  | statement => rw [advance, cursor_statementStep]; exact s.cursor.reaches_next
  | list => exact s.reaches_listStep
  | other strategy => exact s.cursor.reaches_skip _

end Scan

/-! ### Taking turns -/

/-- So many steps in a row may leave the source where it is. -/
def patience : Nat := 8

/-- A scan with the strategy whose turn it is. -/
structure Relay (σ : Type) where
  /-- The scan. -/
  scan : Scan σ
  /-- The strategy that takes the next step. -/
  current : Strategy σ
  /-- How many steps in a row have left the source where it is. -/
  idle : Nat

namespace Relay

/-- The turn goes to the strategy between clauses first. -/
def start (scan : Scan σ) : Relay σ := ⟨scan, .statement, 0⟩

/-- The error of a scan that has stalled. -/
def stalled [Strategies σ] (scan : Scan σ) (strategy : Strategy σ) : SourceError :=
  .stalled strategy.name scan.cursor.position

/-- The turn goes on to a strategy, unless patience is used up. -/
def handOver [Strategies σ] (scan : Scan σ) (idle : Nat) (strategy : Strategy σ) :
    Except SourceError (List Token) ⊕ Relay σ :=
  if patience < idle then .inl (.error (stalled scan strategy)) else .inr ⟨scan, strategy, idle⟩

/-- One step: either the scan ends, with its tokens or an error, or somebody goes on. -/
def step [Strategies σ] (t : Relay σ) : Except SourceError (List Token) ⊕ Relay σ :=
  let (turn, scan) := t.scan.advance t.current
  let progressed := scan.cursor.position ≠ t.scan.cursor.position
  let idle := if progressed then 0 else t.idle + 1
  match turn with
  | .error e => .inl (.error e)
  | .ok .stop => .inl (.ok scan.finish)
  | .ok .again =>
    if progressed then handOver scan idle t.current
    else .inl (.error (stalled scan t.current))
  | .ok (.pass strategy) => handOver scan idle strategy
  | .ok .back => handOver scan idle .statement

theorem handOver_eq_inr [Strategies σ] {scan : Scan σ} {idle : Nat} {strategy : Strategy σ}
    {t : Relay σ} (h : handOver scan idle strategy = .inr t) :
    t.scan = scan ∧ t.idle = idle ∧ idle ≤ patience := by
  unfold handOver at h
  split at h
  · simp at h
  next hi => simp only [Sum.inr.injEq] at h; subst h; exact ⟨rfl, rfl, Nat.not_lt.1 hi⟩

/-- A step that does not end the scan takes characters from the source or uses up patience. -/
theorem step_decreases [Strategies σ] {t u : Relay σ} (h : t.step = .inr u) :
    u.scan.cursor.rest.length < t.scan.cursor.rest.length ∨
      u.scan.cursor.rest.length = t.scan.cursor.rest.length ∧
        patience + 1 - u.idle < patience + 1 - t.idle := by
  have reaches := t.scan.reaches_advance t.current
  unfold step at h
  generalize hadv : t.scan.advance t.current = result at h reaches
  obtain ⟨turn, scan⟩ := result
  simp only at h reaches
  have key : ∀ strategy,
      handOver scan (if scan.cursor.position ≠ t.scan.cursor.position then 0 else t.idle + 1)
        strategy = .inr u →
      u.scan.cursor.rest.length < t.scan.cursor.rest.length ∨
        u.scan.cursor.rest.length = t.scan.cursor.rest.length ∧
          patience + 1 - u.idle < patience + 1 - t.idle := by
    intro strategy hs
    obtain ⟨h1, h2, h3⟩ := handOver_eq_inr hs
    rw [h1, h2]
    by_cases hp : scan.cursor.position ≠ t.scan.cursor.position
    · exact .inl (reaches.length_lt hp)
    · rw [if_neg hp] at h3 ⊢
      have := reaches.length_le
      omega
  split at h
  · simp at h
  · simp at h
  · split at h
    next hp => exact key _ (by simpa [hp] using h)
    · simp at h
  · exact key _ h
  · exact key _ h

/-- Takes turns until the scan ends. -/
def run [Strategies σ] (t : Relay σ) : Except SourceError (List Token) :=
  match _h : t.step with
  | .inl result => result
  | .inr t => run t
termination_by (t.scan.cursor.rest.length, patience + 1 - t.idle)
decreasing_by
  rcases step_decreases _h with h | ⟨h, h'⟩
  · exact .left _ _ h
  · rw [h]; exact .right _ h'

end Relay

/-- Lets the strategies take turns from here on, beginning with the one between clauses. -/
def Scan.run [Strategies σ] (s : Scan σ) : Except SourceError (List Token) :=
  (Relay.start s).run

/-- The tokens of a source in a dialect. -/
def Dialect.tokenize [Strategies σ] (d : Dialect σ) (source : String) :
    Except SourceError (List Token) :=
  (Scan.start d source).run

end RowSieve

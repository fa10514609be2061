import RowSieve.Proofs.Grammar.Validation
import RowSieve.Proofs.Request.Turns

/-!
# Reading statements comes to an end

A call may have calls among its arguments, but these are read behind its name and its parenthesis
(`Parse.Nests`), and the arguments follow one another in a loop.  With that every loop and the
recursion of `allStatements` come to an end, and wherever a reader starts it never goes back in the
tokens, nor past the last one (`Parse.Progress`).

That a statement takes a token needs a dialect that has been established: its first clause opens
with the word that it opens with itself, and no statement is looked for at the end of the input.
So every script is read to its end, whatever kinds the clauses open with
(`Declarations.statements_progress`).
-/

namespace RowSieve

open TokenStream

namespace Parse

variable {σ α β : Type} {p q : Parse α} {f g : α → Parse β} {d : Dialect σ} {s t : TokenStream}
  {tokens : List Token} {position k n : Nat}

/-! ### Arguments of calls -/

theorem bind_eq_bind (h : p s = q s) (hfg : ∀ a t, p s = .ok a t → f a t = g a t) :
    (p >>= f) s = (q >>= g) s := by
  cases hp : p s with
  | error e t => rw [bind_of_error hp, bind_of_error (h.symm.trans hp)]
  | ok a t => rw [bind_of_ok hp, bind_of_ok (h.symm.trans hp), hfg a t hp]

/-- Two readers do the same where fewer tokens are left than in a stream. -/
def SameBehind (s : TokenStream) (p q : Parse α) : Prop :=
  ∀ ⦃t⦄, t.Behind s → t.rest.length < s.rest.length → p t = q t

theorem sameBehind_refl (s : TokenStream) (p : Parse α) : SameBehind s p p := fun _ _ _ => rfl

theorem SameBehind.bind (h : SameBehind s p q) (hp : Forward p)
    (hfg : ∀ a, SameBehind s (f a) (g a)) : SameBehind s (p >>= f) (q >>= g) := by
  intro t ht hlt
  refine bind_eq_bind (h ht hlt) fun a u hu => ?_
  have hbehind := hp.behind hu
  exact hfg a (hbehind.trans ht) (Nat.lt_of_le_of_lt hbehind.rest.length_le hlt)

theorem SameBehind.bind_left (h : SameBehind s p q) (f : α → Parse β) :
    SameBehind s (p >>= f) (q >>= f) := fun _ ht hlt => bind_congr_left (h ht hlt) f

/-- Where the first reader takes a token, the second may look further on only. -/
theorem TakesFrom.bind_eq_bind (htakes : TakesFrom s p) (hp : Forward p) (h : p s = q s)
    (hfg : ∀ a, SameBehind s (f a) (g a)) : (p >>= f) s = (q >>= g) s :=
  Parse.bind_eq_bind h fun a _ ht => hfg a (hp.behind ht) (htakes ht)

/-- A call whose arguments are read by the given reader. -/
def callWith (arguments : Parse (List Node)) (name : String) : Parse Node := do
  let _ ← expect .leftParen "'('"
  if (← eat .rightParen).isSome then return .call name []
  return .call name (← arguments)

/-- An argument, in which the given reader reads a call. -/
def argumentWith (call : String → Parse Node) : Parse Node := do
  let token ← peek
  match token.kind with
  | .function | .word =>
    let _ ← advance
    if (← check .leftParen) then call token.text else return .field token.text
  | .number =>
    let _ ← advance
    return .number token.text
  | .text =>
    let _ ← advance
    return .text token.text
  | .minus =>
    let _ ← advance
    let digits ← expect .number "a number"
    return .number ("-" ++ digits.text)
  | _ => fail "a function argument"

/-- Arguments and the closing parenthesis, where the given readers read one and the ones after a
comma. -/
def argumentsWith (argument : Parse Node) (rest : Parse (List Node)) : Parse (List Node) := do
  let first ← argument
  if (← eat .comma).isSome then return first :: (← rest)
  let _ ← expect .rightParen "',' or ')'"
  return [first]

/-- Reads the comma in front of another argument, or the parenthesis that closes the call. -/
def anotherArgument : Parse Bool := do
  if (← eat .comma).isSome then return true
  let _ ← expect .rightParen "',' or ')'"
  return false

theorem callWith_eq (hlast : s.last.kind = .endOfInput) {p q : Parse (List Node)}
    (h : SameBehind s p q) (name : String) :
    callWith p name s = callWith q name s := by
  refine (takes_expect (by decide) hlast).bind_eq_bind forward_expect rfl fun _ => ?_
  refine (sameBehind_refl s _).bind forward_eat fun close => ?_
  split
  · exact sameBehind_refl s _
  · exact h.bind_left _

theorem argumentWith_eq (hlast : s.last.kind = .endOfInput) {call call' : String → Parse Node}
    (h : ∀ name, SameBehind s (call name) (call' name)) :
    argumentWith call s = argumentWith call' s := by
  have hname {kind : Kind} (hk : s.current.kind = kind) (hne : kind ≠ .endOfInput) (name : String) :
      (do
        let _ ← advance
        if (← check .leftParen) then call name else return .field name : Parse Node) s = (do
        let _ ← advance
        if (← check .leftParen) then call' name else return .field name : Parse Node) s := by
    refine (takesFrom_advance hlast (hk ▸ hne)).bind_eq_bind forward_advance rfl fun _ => ?_
    refine (sameBehind_refl s _).bind forward_check fun paren => ?_
    split
    · exact h name
    · exact sameBehind_refl s _
  rw [argumentWith, argumentWith, bind_peek, bind_peek]
  generalize hk : s.current.kind = kind
  split
  · exact hname hk (by decide) s.current.text
  · exact hname hk (by decide) s.current.text
  · rfl
  · rfl
  · rfl
  · rfl

theorem argumentsWith_eq {argument argument' : Parse Node} {rest rest' : Parse (List Node)}
    (hargument : argument s = argument' s) (hforward : Forward argument)
    (htakes : TakesFrom s argument) (h : SameBehind s rest rest') :
    argumentsWith argument rest s = argumentsWith argument' rest' s := by
  refine htakes.bind_eq_bind hforward hargument fun first => ?_
  refine (sameBehind_refl s _).bind forward_eat fun comma => ?_
  split
  · exact h.bind_left _
  · exact sameBehind_refl s _

/-- Any bounds that allow for the tokens left make no difference for calls and arguments. -/
theorem calls_eq (n : Nat) : ∀ s : TokenStream, s.last.kind = .endOfInput → s.rest.length = n →
    (∀ k k' name, 2 * n < k → 2 * n < k' → callWithin k name s = callWithin k' name s) ∧
      (∀ k k', 2 * n < k → 2 * n < k' → argumentWithin k s = argumentWithin k' s) ∧
      ∀ k k', 2 * n + 1 < k → 2 * n + 1 < k' → argumentsWithin k s = argumentsWithin k' s := by
  -- Only arguments hand their bound on before a token is taken, so they need one more.
  induction n using Nat.strongRecOn with
  | ind n ih =>
    intro s hlast hn
    have hcalls (k k' : Nat) (hk : 2 * n ≤ k) (hk' : 2 * n ≤ k') (name : String) :
        SameBehind s (callWithin k name) (callWithin k' name) := fun t ht hlt =>
      (ih _ (hn ▸ hlt) t (ht.last ▸ hlast) rfl).1 k k' name (by omega) (by omega)
    have harguments (k k' : Nat) (hk : 2 * n ≤ k) (hk' : 2 * n ≤ k') :
        SameBehind s (argumentsWithin k) (argumentsWithin k') := fun t ht hlt =>
      (ih _ (hn ▸ hlt) t (ht.last ▸ hlast) rfl).2.2 k k' (by omega) (by omega)
    have hargument (k k' : Nat) (hk : 2 * n < k) (hk' : 2 * n < k') :
        argumentWithin k s = argumentWithin k' s := by
      obtain ⟨k, rfl⟩ := Nat.exists_eq_add_one.2 (Nat.zero_lt_of_lt hk)
      obtain ⟨k', rfl⟩ := Nat.exists_eq_add_one.2 (Nat.zero_lt_of_lt hk')
      exact argumentWith_eq hlast (hcalls k k' (by omega) (by omega))
    refine ⟨fun k k' name hk hk' => ?_, hargument, fun k k' hk hk' => ?_⟩
    · obtain ⟨k, rfl⟩ := Nat.exists_eq_add_one.2 (Nat.zero_lt_of_lt hk)
      obtain ⟨k', rfl⟩ := Nat.exists_eq_add_one.2 (Nat.zero_lt_of_lt hk')
      exact callWith_eq hlast (harguments k k' (by omega) (by omega)) name
    · obtain ⟨k, rfl⟩ := Nat.exists_eq_add_one.2 (Nat.zero_lt_of_lt hk)
      obtain ⟨k', rfl⟩ := Nat.exists_eq_add_one.2 (Nat.zero_lt_of_lt hk')
      exact argumentsWith_eq (hargument k k' (by omega) (by omega)) (forward_calls k).2.2
        (takes_argumentWithin k hlast) (harguments k k' (by omega) (by omega))

/-- One argument. -/
def readArgument : Parse Node := do argumentWithin (2 * (← remaining) + 1)

/-- The arguments of a call, and the parenthesis behind them. -/
def readArguments : Parse (List Node) := do argumentsWithin (2 * (← remaining) + 2)

/-- One turn of the loop over arguments. -/
def argumentTurn (arguments : List Node) : Parse (List Node × Bool) := do
  let argument ← readArgument
  return (arguments ++ [argument], ← anotherArgument)

theorem forward_readArgument : Forward readArgument :=
  forward_remaining.bind fun _ => (forward_calls _).2.2

theorem forward_readArguments : Forward readArguments :=
  forward_remaining.bind fun _ => (forward_calls _).2.1

theorem readCall_eq (hlast : s.last.kind = .endOfInput) (name : String) :
    readCall name s = callWith readArguments name s := by
  refine callWith_eq hlast (fun t ht hlt => ?_) name
  exact (calls_eq _ t (ht.last ▸ hlast) rfl).2.2 _ _ (by omega) (by omega)

theorem readArgument_eq (hlast : s.last.kind = .endOfInput) :
    readArgument s = argumentWith readCall s := by
  refine argumentWith_eq hlast fun name t ht hlt => ?_
  exact (calls_eq _ t (ht.last ▸ hlast) rfl).1 _ _ name (by omega) (by omega)

theorem forward_anotherArgument : Forward anotherArgument := by
  refine forward_eat.bind fun comma => ?_
  split
  · exact forward_pure
  · exact forward_expect.bind fun _ => forward_pure

theorem argumentsWith_readArgument (arguments : List Node) (rest : Parse (List Node)) :
    (do return arguments ++ (← argumentsWith readArgument rest)) =
      argumentTurn arguments >>= proceed fun arguments => do return arguments ++ (← rest) := by
  simp only [argumentsWith, argumentTurn, anotherArgument, bind_assoc]
  refine bind_congr fun argument => bind_congr fun comma => ?_
  split
  · simp only [bind_assoc, pure_bind, proceed]
    refine bind_congr fun more => ?_
    rw [List.append_cons]
  · simp [proceed]

theorem argumentsWithin_succ (hlast : s.last.kind = .endOfInput) (hk : s.rest.length ≤ k) :
    argumentsWithin (2 * (k + 1)) s = argumentsWith readArgument (argumentsWithin (2 * k)) s := by
  -- A turn leaves an odd bound, and another one in its place makes no difference.
  change argumentsWith (argumentWithin (2 * k + 1)) (argumentsWithin (2 * k + 1)) s = _
  refine argumentsWith_eq ?_ (forward_calls _).2.2 (takes_argumentWithin _ hlast)
    fun t ht hlt => ?_
  · exact (calls_eq _ s hlast rfl).2.1 _ _ (by omega) (by omega)
  · exact (calls_eq _ t (ht.last ▸ hlast) rfl).2.2 _ _ (by omega) (by omega)

theorem terminates_arguments (tokens : List Token) :
    Terminates tokens argumentTurn fun arguments => do return arguments ++ (← readArguments) := by
  have htakes : Takes readArgument := fun s hlast =>
    forward_remaining.bind_takesFrom fun _ _ ht => by
      cases ht
      exact takes_argumentWithin _ hlast
  have hrest (arguments : List Node) (argument : Node) : Forward (do
      return (arguments ++ [argument], ← anotherArgument)) :=
    forward_anotherArgument.bind fun _ => forward_pure
  refine terminates (fun k arguments => do return arguments ++ (← argumentsWithin (2 * k)))
    ?_ ?_ (fun s hlast k arguments hk => ?_) tokens fun s _ arguments => rfl
  · exact fun arguments => forward_readArgument.bind (hrest arguments)
  · exact fun s arguments _ _ hlast h => htakes.bind (hrest arguments) hlast h
  · rw [← argumentsWith_readArgument]
    exact bind_congr_left (argumentsWithin_succ hlast hk) _

/-- Calls are read without a bound.  How deep they nest is no matter, since what a call and an
argument do depends on other calls only behind the tokens that they take themselves. -/
structure Nests (tokens : List Token) : Prop where
  /-- The arguments of a call are read in their loop. -/
  call : ∀ ⦃position s⦄, s.At tokens position → ∀ name,
    readCall name s = callWith readArguments name s
  /-- The calls in an argument are read like any others. -/
  argument : ∀ ⦃position s⦄, s.At tokens position → readArgument s = argumentWith readCall s
  /-- How arguments are read matters to a call only further on. -/
  callBehind : ∀ ⦃position s⦄, s.At tokens position → ∀ ⦃p q⦄, SameBehind s p q → ∀ name,
    callWith p name s = callWith q name s
  /-- How calls are read matters to an argument only further on. -/
  argumentBehind : ∀ ⦃position s⦄, s.At tokens position → ∀ ⦃p q : String → Parse Node⦄,
    (∀ name, SameBehind s (p name) (q name)) → argumentWith p s = argumentWith q s

theorem nests (tokens : List Token) : Nests tokens where
  call _ _ hs := readCall_eq hs.last
  argument _ _ hs := readArgument_eq hs.last
  callBehind _ _ hs _ _ h := callWith_eq hs.last h
  argumentBehind _ _ hs _ _ h := argumentWith_eq hs.last h

/-! ### Scripts -/

/-- The readers, each with what it is given. -/
inductive Reader (σ : Type) where
  /-- Any token. -/
  | advance
  /-- A token of a kind, if it comes next. -/
  | eat (kind : Kind)
  /-- A token of a kind. -/
  | expect (kind : Kind) (expected : String)
  /-- The comments that were put aside. -/
  | takeComments
  /-- A call, behind its name. -/
  | call (name : String)
  /-- An argument of a call. -/
  | argument
  /-- The arguments of a call. -/
  | arguments
  /-- A column. -/
  | column
  /-- A predicate. -/
  | predicate
  /-- The body of a clause. -/
  | body (body : Body) (r : Request)
  /-- Clauses, one after the other. -/
  | clauses (clauses : List (Clause σ)) (r : Request)
  /-- A statement. -/
  | statement
  /-- What stands behind a statement, up to an end. -/
  | skip
  /-- The end of a statement. -/
  | finish
  /-- Semicolons. -/
  | semicolons
  /-- All statements. -/
  | statements

/-- What is left of a stream behind a reader. -/
def Reader.left (d : Dialect σ) : Reader σ → TokenStream → TokenStream
  | advance => Parse.left TokenStream.advance
  | eat kind => Parse.left (TokenStream.eat kind)
  | expect kind expected => Parse.left (TokenStream.expect kind expected)
  | takeComments => Parse.left TokenStream.takeComments
  | call name => Parse.left (readCall name)
  | argument => Parse.left readArgument
  | arguments => Parse.left readArguments
  | column => Parse.left readColumn
  | predicate => Parse.left readPredicate
  | body b r => Parse.left (b.read d r)
  | clauses cs r => Parse.left (readClauses d cs r)
  | statement => Parse.left (readStatement d)
  | skip => Parse.left (do skipToEnd (← remaining))
  | finish => Parse.left (finishStatement d)
  | semicolons => Parse.left (do skipSemicolons (← remaining))
  | statements => Parse.left (allStatements d)

theorem Reader.behind_left (reader : Reader σ) : (reader.left d s).Behind s := by
  cases reader with
  | advance => exact forward_advance s
  | eat kind => exact forward_eat s
  | expect kind expected => exact forward_expect s
  | takeComments => exact forward_takeComments s
  | call name => exact forward_readCall name s
  | argument => exact forward_readArgument s
  | arguments => exact forward_readArguments s
  | column => exact forward_readColumn s
  | predicate => exact forward_readPredicate s
  | body b r => exact forward_read d b r s
  | clauses cs r => exact forward_readClauses d cs r s
  | statement => exact forward_readStatement d s
  | skip => exact (forward_remaining.bind fun _ => forward_skipToEnd _) s
  | finish => exact forward_finishStatement d s
  | semicolons => exact (forward_remaining.bind fun _ => forward_skipSemicolons _) s
  | statements => exact forward_allStatements d s

/-- Reading the tokens of a script, wherever a stream stands among them. -/
structure Progress (d : Dialect σ) (tokens : List Token) : Prop where
  /-- A reader never goes back, nor past the last token, whether it succeeds or fails. -/
  forward : ∀ (reader : Reader σ) ⦃position s⦄, s.At tokens position →
    ∃ position', position ≤ position' ∧ (reader.left d s).At tokens position'
  /-- A statement takes at least one token, unless the end of the input comes next. -/
  statement : ∀ ⦃position s r t⦄, s.At tokens position → s.current.kind ≠ .endOfInput →
    readStatement d s = .ok r t → ∃ position', position < position' ∧ t.At tokens position'
  /-- Statements up to the end of the input. -/
  statements : Terminates tokens (statementTurn d) fun rs => do return rs ++ (← allStatements d)
  /-- Semicolons in front of a statement. -/
  semicolons : Terminates tokens semicolonTurn fun _ => do skipSemicolons (← remaining)
  /-- What a lenient reader passes over. -/
  skip : Terminates tokens skipTurn fun _ => do skipToEnd (← remaining)
  /-- Columns with commas between them. -/
  columns : Terminates tokens (columnTurn d) (Body.columns.read d)
  /-- Predicates with `AND` between them. -/
  predicates : Terminates tokens (predicateTurn d) (Body.predicates.read d)
  /-- Arguments with commas between them. -/
  arguments : Terminates tokens argumentTurn fun arguments => do
    return arguments ++ (← readArguments)
  /-- Calls among the arguments of others. -/
  calls : Nests tokens

theorem progress
    (hfirst : ∀ st ∈ d.statements, ∃ c cs, st.clauses = c :: cs ∧ c.keyword = st.entry)
    (tokens : List Token) : Progress d tokens where
  forward reader position s hs := by
    obtain ⟨position', hle, ht, -⟩ := exists_at_of_behind hs reader.behind_left
    exact ⟨position', hle, ht⟩
  statement position s r t hs hk h := by
    have ht := (forward_readStatement d).behind h
    obtain ⟨position', -, ht, hlt⟩ := exists_at_of_behind hs ht
    exact ⟨position', hlt (takesFrom_readStatement hfirst hs.last hk h), ht⟩
  statements := terminates_statements hfirst tokens
  semicolons := terminates_semicolons tokens
  skip := terminates_skip tokens
  columns := terminates_columns d tokens
  predicates := terminates_predicates d tokens
  arguments := terminates_arguments tokens
  calls := nests tokens

end Parse

open Parse

namespace Declarations

variable {σ : Type} {decl : Declarations σ} {registry : Registry} {d : Dialect σ}

/-- **Reading a script comes to an end**, in every dialect that has been established and for any
tokens.  The stream stands at a position in the tokens, and the loop over statements has at most one
turn more than there are tokens.  From any position, readers go forward, a statement takes a token,
and each of the loops has a last turn. -/
theorem statements_progress (hd : (decl.establish registry).1 = .ok d) (tokens : List Token)
    (finish : Nat) :
    (∃ position, (ofTokensUpTo tokens finish).At tokens position) ∧
      (∃ count ≤ tokens.length + 1, Loops (statementTurn d) count [] (ofTokensUpTo tokens finish)
        (allStatements d (ofTokensUpTo tokens finish))) ∧
      Progress d tokens := by
  -- Of what is checked, only the first clause of each statement matters here.
  have hsound : decl.Sound registry := exists_establish_iff_sound.1 ⟨d, hd⟩
  obtain rfl : d = decl.dialect := eq_dialect_of_establish hd
  have hprogress := progress (d := decl.dialect) hsound.entry tokens
  obtain ⟨position, hs⟩ := exists_at_ofTokensUpTo tokens finish
  refine ⟨⟨position, hs⟩, ?_, hprogress⟩
  obtain ⟨count, hcount, hloops⟩ := hprogress.statements.ends hs []
  simp only [List.nil_append, bind_pure] at hloops
  exact ⟨count, by omega, hloops⟩

/-- A lenient dialect in which a word stands for the end of the input.  A clause opens with it, and
even a statement does, which is never looked for. -/
def stopping : Declarations Empty :=
  { (named "stop" : Declarations Empty) with
    keywords := [("stop", .endOfInput)]
    statements :=
      [{ entry := .endOfInput
         kind := .select
         clauses := [⟨.endOfInput, .list, .limit, false⟩] },
       { entry := .selectWord
         kind := .select
         clauses := [⟨.selectWord, .list, .columns, true⟩, ⟨.endOfInput, .list, .limit, true⟩] }]
    strict := false }

/-- The tokens of `/* a */ select b stop 5 6; ;`. -/
def stoppingTokens : List Token :=
  [⟨.comment, "a", 0⟩, ⟨.selectWord, "select", 8⟩, ⟨.word, "b", 15⟩, ⟨.endOfInput, "stop", 17⟩,
    ⟨.number, "5", 22⟩, ⟨.number, "6", 24⟩, ⟨.endOfStatement, ";", 25⟩, ⟨.endOfStatement, ";", 27⟩]

/-- The statement starts behind the comment and goes on behind `stop`, where `6` is passed over. -/
theorem statements_progress_stopping :
    (stopping.establish .shared).1 = .ok stopping.dialect ∧
      (∃ r t, readStatement stopping.dialect (ofTokensUpTo stoppingTokens 28) = .ok r t ∧
        ∃ position, 1 < position ∧ t.At stoppingTokens position) ∧
      (∃ r t, allStatements stopping.dialect (ofTokensUpTo stoppingTokens 28) = .ok [r] t) ∧
      (∃ count ≤ 9, Loops (statementTurn stopping.dialect) count [] (ofTokensUpTo stoppingTokens 28)
        (allStatements stopping.dialect (ofTokensUpTo stoppingTokens 28))) ∧
      Progress stopping.dialect stoppingTokens := by
  have hd : (stopping.establish .shared).1 = .ok stopping.dialect := rfl
  obtain ⟨-, hscript, hprogress⟩ := statements_progress hd stoppingTokens 28
  have hs : (ofTokensUpTo stoppingTokens 28).At stoppingTokens 1 := ⟨by decide, rfl, rfl⟩
  refine ⟨hd, ⟨_, _, rfl, ?_⟩, ⟨_, _, rfl⟩, hscript, hprogress⟩
  exact hprogress.statement hs (by decide) rfl

end Declarations

end RowSieve

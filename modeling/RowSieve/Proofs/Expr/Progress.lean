import RowSieve.Proofs.Expr.Bounds

/-!
# Reading programs comes to an end

Without bounds the readers obey the equations in `Compile.Unrolls`: each of them is given by what it
does at one turn and by itself, wherever it is called.  There are finitely many tokens, and a reader
that succeeds takes one or more, but never the end of the input.  So the loops and the recursion
end, and there is always a next token to look at (`readers_progress`).

A reader that fails may stop at any token.  `Compile.Stands` has the places that any sequence of
calls leads to, those that fail among them.
-/

namespace RowSieve

open Phrase

namespace Compile

variable {α β : Type} {fs : Functions} {n bound bound' pos : Nat} {t : Token}
  {ts us tokens : List Token} {source : String}

/-! ### Readers without bounds -/

/-- Goes on with operators and operands, grouping to the left, as long as there are any. -/
def chain (operator? : Token → Option Operator) (operand : Compile Expr) (left : Expr) :
    Compile Expr := do
  chainFrom operator? operand (← remaining) left

/-- One or more expressions with commas between them. -/
def arguments (inner : Compile Expr) : Compile (List Expr) := do
  argumentsWithin inner (← remaining)

/-- Instructions up to the end of the input. -/
def instructions (fs : Functions) : Compile (List Instruction) := do
  instructionsWithin fs (← remaining)

/-- One turn of a reader of instructions. -/
def instructionsTurn (fs : Functions) (rest : Compile (List Instruction)) :
    Compile (List Instruction) := do
  skipSemicolons
  if (← check .endOfInput) then return []
  let first ← instruction fs
  if !(← check .endOfInput) then expect .endOfStatement "';' or the end of the program"
  return first :: (← rest)

/-- The operators that group to the left, each with the level of its operands. -/
def chains : List ((Token → Option Operator) × Level) :=
  [(orOperator?, .conjunction), (andOperator?, .negation), (sumOperator?, .product),
    (productOperator?, .sign)]

/-- The equations that the readers obey in front of some tokens. -/
structure Unrolls (fs : Functions) (ts : List Token) : Prop where
  /-- The loosest level has expressions inside. -/
  expression : Compile.expression fs ts = Level.disjunction.read fs ts
  /-- Operands with operators between them. -/
  chain : ∀ operator? level, (operator?, level) ∈ chains → ∀ left,
    Compile.chain operator? (level.read fs) left ts =
      chainTurn operator? (level.read fs) (Compile.chain operator? (level.read fs)) left ts
  /-- Negations in front of a comparison. -/
  negation : Level.negation.read fs ts =
    prefixTurn (spells · "not") .not (Level.comparison.read fs) (Level.negation.read fs) ts
  /-- Signs in front of an operand. -/
  sign : Level.sign.read fs ts =
    prefixTurn (·.kind = .minus) negate (Level.primary.read fs) (Level.sign.read fs) ts
  /-- Arguments with commas between them. -/
  arguments : Compile.arguments (Compile.expression fs) ts =
    argumentsTurn (Compile.expression fs) (Compile.arguments (Compile.expression fs)) ts
  /-- Semicolons in front of an instruction. -/
  skipSemicolons : Compile.skipSemicolons ts = (do
    if (← check .endOfStatement) then
      advance
      Compile.skipSemicolons) ts
  /-- Instructions with semicolons around them. -/
  instructions : Compile.instructions fs ts = instructionsTurn fs (Compile.instructions fs) ts

theorem expression_eq (hts : Terminated ts) :
    expression fs ts = Level.disjunction.read fs ts := by
  obtain ⟨t, ts, rfl⟩ := hts.exists_cons
  refine Level.same (Sound.expressionWithin fs ts.length) Expression.opens ?_ .disjunction hts
    (Nat.le_refl _)
  exact fun us hus hle => expressionWithin_eq hus hle (Nat.le_refl _)

theorem chain_eq {operator? : Token → Option Operator} {operand : Compile Expr}
    (hop : ∀ t o, operator? t = some o → t.kind ≠ .endOfInput) (hp : Advances operand)
    (hts : Terminated ts) (left : Expr) :
    chain operator? operand left ts =
      chainTurn operator? operand (chain operator? operand) left ts := by
  obtain ⟨t, ts, rfl⟩ := hts.exists_cons
  refine chainTurn_eq left hop hp (sameUpTo_refl _ _) hts (Nat.le_refl _) fun us hus hle left => ?_
  exact chainFrom_eq hop hp (sameUpTo_refl _ _) hus hle hle (Nat.le_refl _) left

theorem Prefixing.unroll {loop : Nat → Compile Expr} {operand : Compile Expr} {P D : Phrase Expr}
    {test : Token → Bool} {build : Expr → Expr} (hp : Prefixing loop operand P D test build)
    (hts : Terminated ts) :
    (do loop (← remaining)) ts = prefixTurn test build operand (do loop (← remaining)) ts := by
  obtain ⟨t, ts, rfl⟩ := hts.exists_cons
  rw [bind_remaining, List.length_cons, hp.turn]
  refine prefixTurn_eq hp.kind (sameUpTo_refl _ _) hts (Nat.le_refl _) fun us hus hle => ?_
  exact hp.eq hp (sameUpTo_refl _ _) hus hle hle (Nat.le_refl _)

theorem arguments_eq {inner : Compile Expr} (hp : Advances inner) (hts : Terminated ts) :
    arguments inner ts = argumentsTurn inner (arguments inner) ts := by
  obtain ⟨t, ts, rfl⟩ := hts.exists_cons
  refine argumentsTurn_eq hp (sameUpTo_refl _ _) hts (Nat.le_refl _) fun us hus hlt => ?_
  have hle : us.length ≤ ts.length := Nat.le_of_lt_succ hlt
  exact argumentsWithin_eq hp (sameUpTo_refl _ _) hus hle hle (Nat.le_refl _)

theorem skipSemicolons_eq (hts : Terminated ts) :
    skipSemicolons ts = (do
      if (← check .endOfStatement) then
        advance
        skipSemicolons) ts := by
  obtain ⟨t, ts, rfl⟩ := hts.exists_cons
  rw [bind_check, skipSemicolons]
  by_cases hk : t.kind = .endOfStatement
  · have htail := hts.tail (by rw [hk]; decide)
    rw [List.dropWhile_cons_of_pos (by simpa using hk), if_pos (decide_eq_true hk),
      bind_advance htail.ne_nil]
    rfl
  · rw [List.dropWhile_cons_of_neg (by simpa using hk), if_neg (by simpa using hk)]
    rfl

theorem advances_expression (fs : Functions) : Advances (expression fs) :=
  (Sound.expression fs).advances fun _ _ => Expression.opens.ne_nil

theorem advances_instruction (fs : Functions) : Advances (instruction fs) :=
  (Sound.instruction fs).advances fun us i hi => by
    obtain ⟨t, vs, rfl, -⟩ := exists_head_of_instructing hi
    simp

theorem instructionsTurn_eq {rest rest' : Compile (List Instruction)} (hts : Terminated ts)
    (hrest : ∀ us, Terminated us → us.length < ts.length → rest us = rest' us) :
    instructionsTurn fs rest ts = instructionsTurn fs rest' ts := by
  rw [instructionsTurn, instructionsTurn, bind_skipSemicolons, bind_skipSemicolons]
  have hle := (List.dropWhile_suffix (l := ts) fun t : Token => t.kind = .endOfStatement).length_le
  have hterm := hts.dropSemicolons
  generalize (ts.dropWhile fun t => t.kind = .endOfStatement) = us at hle hterm
  obtain ⟨t, us, rfl⟩ := hterm.exists_cons
  rw [bind_check, bind_check]
  by_cases hk : t.kind = .endOfInput
  · simp only [hk, decide_true, if_true]
  simp only [hk, decide_false]
  refine (advances_instruction fs).bind_eq_bind hterm rfl fun i vs hvs hlt => ?_
  obtain ⟨u, vs, rfl⟩ := hvs.exists_cons
  rw [bind_check, bind_check]
  by_cases hu : u.kind = .endOfInput
  · simp only [hu, decide_true]
    exact bind_eq_bind (hrest _ hvs (by omega)) fun _ _ _ => rfl
  · simp only [hu, decide_false]
    refine (advances_expect (by decide)).bind_eq_bind hvs rfl fun _ ws hws hlt' => ?_
    exact bind_eq_bind (hrest _ hws (by omega)) fun _ _ _ => rfl

theorem instructionsWithin_eq (hts : Terminated ts) (hb : ts.length ≤ bound)
    (hb' : ts.length ≤ bound') :
    instructionsWithin fs bound ts = instructionsWithin fs bound' ts := by
  refine hts.bounds_induct
    (P := fun b b' ts => instructionsWithin fs b ts = instructionsWithin fs b' ts) ?_ hb hb'
  intro b b' t ts hts ih
  exact instructionsTurn_eq hts fun us hus hlt => ih us hus (Nat.le_of_lt_succ hlt)

theorem instructions_eq (hts : Terminated ts) :
    instructions fs ts = instructionsTurn fs (instructions fs) ts := by
  obtain ⟨t, ts, rfl⟩ := hts.exists_cons
  refine instructionsTurn_eq hts fun us hus hlt => ?_
  exact instructionsWithin_eq hus (Nat.le_of_lt_succ hlt) (Nat.le_refl _)

theorem unrolls (hts : Terminated ts) : Unrolls fs ts where
  expression := expression_eq hts
  chain operator? level hmem left := by
    have hp (level : Level) : Advances (level.read fs) := Level.advances (Sound.expression fs) level
    simp only [chains, List.mem_cons, Prod.mk.injEq, List.not_mem_nil, or_false] at hmem
    rcases hmem with ⟨rfl, rfl⟩ | ⟨rfl, rfl⟩ | ⟨rfl, rfl⟩ | ⟨rfl, rfl⟩
    · exact chain_eq (fun _ _ => kind_ne_of_orOperator?) (hp _) hts left
    · exact chain_eq (fun _ _ => kind_ne_of_andOperator?) (hp _) hts left
    · exact chain_eq (fun _ _ => kind_ne_of_sumOperator?) (hp _) hts left
    · exact chain_eq (fun _ _ => kind_ne_of_productOperator?) (hp _) hts left
  negation := (prefixing_negation _ fun _ _ => True).unroll hts
  sign := (prefixing_sign _ fun _ _ => True).unroll hts
  arguments := arguments_eq (advances_expression fs) hts
  skipSemicolons := skipSemicolons_eq hts
  instructions := instructions_eq hts

/-! ### Places -/

/-- The readers of a program and of its parts. -/
inductive Part where
  /-- A whole program. -/
  | program
  /-- An instruction. -/
  | instruction
  /-- An expression of a level of operators. -/
  | level (level : Level)
  /-- A call of a function, behind its name. -/
  | call (name : String)

/-- Reads a part, and forgets what it stands for. -/
def Part.read (fs : Functions) : Part → Compile Unit
  | .program => do
    let _ ← Compile.program fs
    return
  | .instruction => do
    let _ ← Compile.instruction fs
    return
  | .level l => do
    let _ ← l.read fs
    return
  | .call name => do
    let _ ← Compile.call fs (expression fs) name
    return

/-- Moves past so many tokens, or up to the last one. -/
def advanceBy : Nat → Compile Unit
  | 0 => return
  | count + 1 => do
    advance
    advanceBy count

/-- The tokens that may be left after any sequence of calls. -/
inductive Stands (fs : Functions) (tokens : List Token) : List Token → Prop where
  /-- Nothing has been called. -/
  | start : Stands fs tokens tokens
  /-- A call succeeds. -/
  | done {part ts us} : Stands fs tokens ts → Part.read fs part ts = .ok ((), us) →
    Stands fs tokens us
  /-- A call fails somewhere behind the token that it starts with, or at it. -/
  | failed {part ts e count us} : Stands fs tokens ts → Part.read fs part ts = .error e →
    advanceBy count ts = .ok ((), us) → Stands fs tokens us

theorem tokens_ne_nil_of_instructions {is : List Instruction} (h : Instructions fs ts is) :
    ts ≠ [] := by
  cases h with
  | single hi =>
    obtain ⟨t, vs, rfl, -⟩ := exists_head_of_instructing hi
    simp
  | cons => simp

theorem advances_program (fs : Functions) : Advances (program fs) := by
  intro ts p us hts hp
  obtain ⟨taken, t, rfl, ht⟩ := hts.exists_append
  have hphrase := program_sound hts hp
  rw [program_complete hphrase ht] at hp
  cases hp
  refine ⟨.last ht, List.suffix_append _ _, ?_⟩
  obtain ⟨-, his, -⟩ := hphrase
  have hlen := List.length_pos_iff.2 (tokens_ne_nil_of_instructions his)
  simp only [List.length_append, List.length_singleton]
  omega

theorem advances_call (fs : Functions) (name : String) :
    Advances (call fs (expression fs) name) := by
  intro ts e us hts he
  obtain ⟨hus, taken, arguments, rfl, hargs, -⟩ := (Sound.expression fs).call hts he
  refine ⟨hus, List.suffix_append _ _, ?_⟩
  obtain ⟨o, rest, rfl, -⟩ := hargs.exists_head
  simp only [List.length_append, List.length_cons]
  omega

theorem Part.advances (part : Part) : Advances (part.read fs) := by
  cases part with
  | program => exact (advances_program fs).bind_pure _
  | instruction => exact (advances_instruction fs).bind_pure _
  | level level => exact (Level.advances (Sound.expression fs) level).bind_pure _
  | call name => exact (advances_call fs name).bind_pure _

theorem Terminated.advanceBy {count : Nat} (hts : Terminated ts)
    (h : Compile.advanceBy count ts = .ok ((), us)) : Terminated us ∧ us <:+ ts := by
  induction count generalizing ts with
  | zero =>
    obtain ⟨-, rfl⟩ := pure_eq_ok.1 h
    exact ⟨hts, List.suffix_refl _⟩
  | succ count ih =>
    cases hts with
    | last ht => exact ih (.last ht) h
    | @cons t ts ht hts =>
      rw [Compile.advanceBy, bind_advance hts.ne_nil] at h
      obtain ⟨hus, hsuffix⟩ := ih hts h
      exact ⟨hus, hsuffix.trans (List.suffix_cons _ _)⟩

theorem Stands.terminated (h : Stands fs tokens ts) (htokens : Terminated tokens) :
    Terminated ts ∧ ts <:+ tokens := by
  induction h with
  | start => exact ⟨htokens, List.suffix_refl _⟩
  | done _ hread ih =>
    obtain ⟨hus, hsuffix, -⟩ := Part.advances _ ih.1 hread
    exact ⟨hus, hsuffix.trans ih.2⟩
  | failed _ _ hmove ih =>
    obtain ⟨hus, hsuffix⟩ := ih.1.advanceBy hmove
    exact ⟨hus, hsuffix.trans ih.2⟩

theorem Terminated.drop (hts : Terminated ts) (hpos : pos < ts.length) :
    Terminated (ts.drop pos) := by
  induction hts generalizing pos with
  | last ht =>
    obtain rfl : pos = 0 := by simpa using hpos
    exact .last ht
  | cons ht hts ih =>
    cases pos with
    | zero => exact .cons ht hts
    | succ pos => exact ih (Nat.lt_of_succ_lt_succ hpos)

theorem exists_eq_drop (h : us <:+ ts) :
    ∃ pos, us = ts.drop pos ∧ pos + us.length = ts.length := by
  have hle := h.length_le
  exact ⟨ts.length - us.length, List.suffix_iff_eq_drop.1 h, by omega⟩

theorem Terminated.kind_ne (h : Terminated (us ++ [t])) : ∀ u ∈ us, u.kind ≠ .endOfInput := by
  induction us with
  | nil => simp
  | cons v us ih =>
    rw [List.cons_append] at h
    generalize hvs : us ++ [t] = vs at h ih
    cases h with
    | last => simp at hvs
    | cons hk h => exact List.forall_mem_cons.2 ⟨hk, ih h⟩

end Compile

open Compile

/-- **Reading goes on and comes to an end.**  The tokens of a program are not empty, and the end of
the input is the last of them and no other.  Wherever calls of readers lead to, there is a next
token.  At each token the readers do what they do at one turn, whatever their bounds, and one that
succeeds moves on by a token or more, but not past the end of the input. -/
theorem readers_progress {source : String} {raw : List Token} (h : scan source = .ok raw)
    (fs : Functions) :
    ∃ tokens, programTokens source = .ok tokens ∧
      (∃ front last, tokens = front ++ [last] ∧ last.kind = .endOfInput ∧
        ∀ t ∈ front, t.kind ≠ .endOfInput) ∧
      (∀ ts, Stands fs tokens ts → ∃ pos < tokens.length, ts = tokens.drop pos) ∧
      ∀ pos (hpos : pos < tokens.length),
        peek (tokens.drop pos) = .ok (tokens[pos], tokens.drop pos) ∧
        Unrolls fs (tokens.drop pos) ∧
        ∀ part us, Part.read fs part (tokens.drop pos) = .ok ((), us) →
          ∃ pos', pos < pos' ∧ pos' < tokens.length ∧ us = tokens.drop pos' := by
  have hterm := terminated_of_scan h
  refine ⟨raw.filter fun t => t.kind ≠ .comment, by rw [programTokens, h], ?_, ?_, ?_⟩
  · obtain ⟨front, last, hts, hlast⟩ := hterm.exists_append
    rw [hts] at hterm
    exact ⟨front, last, hts, hlast, hterm.kind_ne⟩
  · intro ts hts
    obtain ⟨hterm', hsuffix⟩ := hts.terminated hterm
    obtain ⟨pos, rfl, hlen⟩ := exists_eq_drop hsuffix
    have hpos := List.length_pos_iff.2 hterm'.ne_nil
    exact ⟨pos, by omega, rfl⟩
  · intro pos hpos
    have hdrop := hterm.drop hpos
    refine ⟨?_, unrolls hdrop, fun part us hread => ?_⟩
    · rw [List.drop_eq_getElem_cons hpos]
      rfl
    · obtain ⟨hus, hsuffix, hlt⟩ := part.advances hdrop hread
      obtain ⟨count, rfl, hlen⟩ := exists_eq_drop hsuffix
      have hcount := List.length_pos_iff.2 hus.ne_nil
      rw [List.drop_drop] at hcount hlen hlt ⊢
      simp only [List.length_drop] at hcount hlen hlt
      exact ⟨_, by omega, by omega, rfl⟩

/-- A sign in front of parentheses is a turn of its own. -/
theorem readers_progress_sign :
    scan "-(2)" = .ok [⟨.minus, "-", 0⟩, ⟨.leftParen, "(", 1⟩, ⟨.number, "2", 2⟩,
        ⟨.rightParen, ")", 3⟩, ⟨.endOfInput, "", 4⟩] ∧
      ∃ tokens, programTokens "-(2)" = .ok tokens ∧
        (Part.level .sign).read .empty tokens = .ok ((), tokens.drop 4) ∧
        (∃ pos, 0 < pos ∧ pos < tokens.length ∧ tokens.drop 4 = tokens.drop pos) ∧
        Unrolls .empty tokens := by
  have hscan : scan "-(2)" = .ok [⟨.minus, "-", 0⟩, ⟨.leftParen, "(", 1⟩, ⟨.number, "2", 2⟩,
      ⟨.rightParen, ")", 3⟩, ⟨.endOfInput, "", 4⟩] := rfl
  obtain ⟨tokens, htokens, -, -, hplaces⟩ := readers_progress hscan .empty
  obtain rfl : [⟨.minus, "-", 0⟩, ⟨.leftParen, "(", 1⟩, ⟨.number, "2", 2⟩, ⟨.rightParen, ")", 3⟩,
      (⟨.endOfInput, "", 4⟩ : Token)] = tokens := Except.ok.inj htokens
  obtain ⟨-, hunrolls, hreads⟩ := hplaces 0 (by simp)
  have hsign : (Part.level .sign).read .empty [⟨.minus, "-", 0⟩, ⟨.leftParen, "(", 1⟩,
      ⟨.number, "2", 2⟩, ⟨.rightParen, ")", 3⟩, ⟨.endOfInput, "", 4⟩] =
      .ok ((), [⟨.endOfInput, "", 4⟩]) := rfl
  exact ⟨hscan, _, htokens, hsign, hreads _ _ hsign, hunrolls⟩

end RowSieve

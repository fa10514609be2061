import RowSieve.Proofs.Decimal.Spelling
import RowSieve.Proofs.Expr.Completeness

/-!
# Programs that are accepted

A source compiles exactly if its tokens are a program (`compile_eq_ok_iff`), and to the program they
stand for.  What is read after some instructions is a `Phrase.Remainder`: semicolons come first in
it, so that a reader which skips them at each turn meets the same phrases as the grammar.
-/

namespace RowSieve

open Phrase

namespace Phrase

/-- What is left of a program: semicolons, or instructions with semicolons around them. -/
inductive Remainder (fs : Functions) : Phrase (List Instruction) where
  /-- There are no more instructions. -/
  | finish {ts} : Semicolons ts → Remainder fs ts []
  /-- There are more. -/
  | more {before ts is after} : Semicolons before → Instructions fs ts is → Semicolons after →
    Remainder fs (before ++ ts ++ after) is

variable {fs : Functions} {ts us before : List Token} {t : Token} {i : Instruction}
  {is : List Instruction}

theorem semicolons_nil : Semicolons [] := nofun

theorem semicolons_cons : Semicolons (t :: ts) ↔ t.kind = .endOfStatement ∧ Semicolons ts :=
  List.forall_mem_cons

theorem Semicolons.append (h : Semicolons ts) (h' : Semicolons us) : Semicolons (ts ++ us) :=
  List.forall_mem_append.2 ⟨h, h'⟩

theorem Remainder.of_instructions (h : Instructions fs ts is) (hus : Semicolons us) :
    Remainder fs (ts ++ us) is :=
  .more semicolons_nil h hus

theorem Remainder.semicolons_append (h : Remainder fs ts is) (hb : Semicolons before) :
    Remainder fs (before ++ ts) is := by
  cases h with
  | finish hts => exact .finish (hb.append hts)
  | more hbefore his hafter => simpa using Remainder.more (hb.append hbefore) his hafter

theorem Remainder.instruction_append (h : Remainder fs us is) (hi : Instructing fs ts i)
    (ht : t.kind = .endOfStatement) : Remainder fs (ts ++ t :: us) (i :: is) := by
  cases h with
  | finish hus => exact .of_instructions (.single hi) (semicolons_cons.2 ⟨ht, hus⟩)
  | more hbefore his hafter =>
    have h := Instructions.cons hi (semicolons_cons.2 ⟨ht, hbefore⟩) his
    simpa using Remainder.of_instructions h hafter

theorem Instructions.ne_nil (h : Instructions fs ts is) : is ≠ [] := by
  cases h <;> simp

/-- Programs are what is left if it is not without instructions. -/
theorem programming_iff {p : Program} :
    Programming fs ts p ↔ Remainder fs ts p.instructions ∧ p.instructions ≠ [] ∧
      p.limit = none := by
  constructor
  · rintro ⟨hbefore, his, hafter⟩
    exact ⟨.more hbefore his hafter, his.ne_nil, rfl⟩
  · rintro ⟨h, hne, hlimit⟩
    obtain ⟨is, limit⟩ := p
    dsimp only at h hne hlimit
    subst hlimit
    cases h with
    | finish => exact absurd rfl hne
    | more hbefore his hafter => exact .intro hbefore his hafter

end Phrase

namespace Compile

variable {β : Type} {fs : Functions} {bound : Nat} {ts ts' us : List Token} {t : Token}
  {i : Instruction} {is : List Instruction}

/-! ### Turns -/

theorem bind_skipSemicolons (f : Unit → Compile β) :
    (skipSemicolons >>= f) ts = f () (ts.dropWhile fun t => t.kind = .endOfStatement) := rfl

/-- What comes after an instruction that has been read. -/
def afterInstruction (fs : Functions) (bound : Nat) (first : Instruction) :
    Compile (List Instruction) := do
  if !(← check .endOfInput) then expect .endOfStatement "';' or the end of the program"
  return first :: (← instructionsWithin fs bound)

theorem instructionsWithin_semicolons_append (h : Semicolons us) (hb : 0 < bound) :
    instructionsWithin fs bound (us ++ ts) = instructionsWithin fs bound ts := by
  cases bound with
  | zero => omega
  | succ bound =>
    simp only [instructionsWithin, bind_skipSemicolons]
    rw [List.dropWhile_append_of_pos (by simpa [Semicolons] using h)]

theorem instructionsWithin_finish (ht : t.kind = .endOfInput) :
    instructionsWithin fs bound [t] = .ok ([], [t]) := by
  cases bound with
  | zero => rfl
  | succ bound =>
    simp only [instructionsWithin, bind_skipSemicolons]
    rw [List.dropWhile_cons_of_neg (by simp [ht]), bind_check, if_pos (decide_eq_true ht)]
    rfl

theorem instructionsWithin_cons (ht : t.kind ∉ [Kind.endOfStatement, .endOfInput]) :
    instructionsWithin fs (bound + 1) (t :: ts) =
      (Compile.instruction fs >>= afterInstruction fs bound) (t :: ts) := by
  simp only [List.mem_cons, List.not_mem_nil, or_false, not_or] at ht
  simp only [instructionsWithin, bind_skipSemicolons]
  rw [List.dropWhile_cons_of_neg (by simp [ht]), bind_check, if_neg (by simp [ht])]
  rfl

theorem afterInstruction_finish (ht : t.kind = .endOfInput) :
    afterInstruction fs bound i [t] = .ok ([i], [t]) := by
  rw [afterInstruction, bind_check, if_neg (by simp [ht])]
  exact bind_of_ok (instructionsWithin_finish ht) _

theorem afterInstruction_eq_ok (hts : ts ≠ []) (ht : t.kind ≠ .endOfInput) :
    afterInstruction fs bound i (t :: ts) = .ok (is, ts') ↔
      t.kind = .endOfStatement ∧
        ∃ js, instructionsWithin fs bound ts = .ok (js, ts') ∧ i :: js = is := by
  rw [afterInstruction, bind_check, if_pos (by simp [ht])]
  refine (bind_expect_eq_ok hts).trans (and_congr_right fun _ => ?_)
  refine bind_eq_ok.trans ⟨?_, ?_⟩
  · rintro ⟨js, ts₁, hjs, hrest⟩
    obtain ⟨rfl, rfl⟩ := pure_eq_ok.1 hrest
    exact ⟨js, hjs, rfl⟩
  · rintro ⟨js, hjs, rfl⟩
    exact ⟨js, ts', hjs, pure_eq_ok.2 ⟨rfl, rfl⟩⟩

/-! ### Soundness -/

theorem Terminated.of_semicolons (h : Terminated (us ++ ts)) (hus : Semicolons us) :
    Terminated ts := by
  induction us with
  | nil => exact h
  | cons t us ih =>
    obtain ⟨ht, hus⟩ := semicolons_cons.1 hus
    exact ih (h.tail (by rw [ht]; decide)) hus

theorem Terminated.dropSemicolons (hts : Terminated ts) :
    Terminated (ts.dropWhile fun t => t.kind = .endOfStatement) := by
  rw [← List.takeWhile_append_dropWhile (p := fun t : Token => t.kind = .endOfStatement)
    (l := ts)] at hts
  exact hts.of_semicolons fun t ht => by simpa using List.all_eq_true.1 List.all_takeWhile t ht

theorem exists_semicolons (ts : List Token) :
    ∃ before rest, ts = before ++ rest ∧ Semicolons before ∧
      ∀ t us, rest = t :: us → t.kind ≠ .endOfStatement := by
  refine ⟨ts.takeWhile fun t => t.kind = .endOfStatement, ts.dropWhile fun t => t.kind =
    .endOfStatement, List.takeWhile_append_dropWhile.symm, fun t ht => ?_, fun t us h => ?_⟩
  · simpa using List.all_eq_true.1 List.all_takeWhile t ht
  · have hhead := List.head?_dropWhile_not (fun t : Token => t.kind = .endOfStatement) ts
    simpa [h] using hhead

/-- Instructions are read up to the end of the input, and nothing before it is left out. -/
theorem instructionsWithin_sound (hts : Terminated ts) (hb : ts.length ≤ bound)
    (h : instructionsWithin fs bound ts = .ok (is, ts')) :
    ∃ us t, ts = us ++ [t] ∧ Remainder fs us is := by
  induction bound generalizing ts is with
  | zero => exact absurd (List.length_eq_zero_iff.1 (Nat.le_zero.1 hb)) hts.ne_nil
  | succ bound ih =>
    obtain ⟨before, rest, rfl, hbefore, hrest⟩ := exists_semicolons ts
    rw [instructionsWithin_semicolons_append hbefore (Nat.succ_pos _)] at h
    have hterm := hts.of_semicolons hbefore
    -- The semicolons in front belong to the remainder, whatever it is.
    suffices ∃ us t, rest = us ++ [t] ∧ Remainder fs us is by
      obtain ⟨us, t, rfl, hus⟩ := this
      exact ⟨before ++ us, t, by simp, hus.semicolons_append hbefore⟩
    obtain ⟨t, rest, rfl⟩ := hterm.exists_cons
    by_cases hend : t.kind = .endOfInput
    · cases hterm with
      | cons hk => exact absurd hend hk
      | last =>
        rw [instructionsWithin_finish hend] at h
        cases h
        exact ⟨[], t, rfl, .finish semicolons_nil⟩
    · rw [instructionsWithin_cons (by simp [hend, hrest t rest rfl])] at h
      obtain ⟨i, ts₁, hi, hafter⟩ := bind_eq_ok.1 h
      obtain ⟨hts₁, us, hus, hphrase⟩ := Sound.instruction fs hterm hi
      rw [hus] at hb ⊢
      cases hts₁ with
      | last hu =>
        rw [afterInstruction_finish hu] at hafter
        cases hafter
        have hlast := Remainder.of_instructions (.single hphrase) semicolons_nil
        exact ⟨us, _, rfl, by simpa using hlast⟩
      | @cons u ts₁ hu hts₁ =>
        obtain ⟨hsemicolon, js, hjs, rfl⟩ := (afterInstruction_eq_ok hts₁.ne_nil hu).1 hafter
        simp only [List.length_append, List.length_cons] at hb
        obtain ⟨vs, e, rfl, hvs⟩ := ih hts₁ (by omega) hjs
        exact ⟨us ++ u :: vs, e, by simp, hvs.instruction_append hphrase hsemicolon⟩

/-! ### Completeness -/

/-- An instruction is not taken for a semicolon, nor for the end of the input. -/
theorem exists_head_of_instructing (h : Instructing fs us i) :
    ∃ t vs, us = t :: vs ∧ t.kind ∉ [Kind.endOfStatement, .endOfInput] := by
  cases h with
  | filter hq => exact ⟨_, _, rfl, by simp [hq]⟩
  | assign hk => exact ⟨_, _, rfl, by simp [hk]⟩
  | bare he =>
    obtain ⟨t, vs, rfl, -⟩ := Expression.opens he
    have ht := he.inside t (.head _)
    simp only [Inside, List.mem_cons, not_or] at ht
    exact ⟨t, vs, rfl, by simp [ht]⟩

theorem instructionsWithin_instruction_append (hi : Instructing fs us i)
    (ht : t.kind ∈ [Kind.endOfStatement, .endOfInput]) :
    instructionsWithin fs (bound + 1) (us ++ t :: ts) =
      afterInstruction fs bound i (t :: ts) := by
  have hread : Compile.instruction fs (us ++ t :: ts) = .ok (i, t :: ts) :=
    Complete.instruction fs hi ht
  obtain ⟨u, vs, rfl, hu⟩ := exists_head_of_instructing hi
  rw [List.cons_append] at hread ⊢
  rw [instructionsWithin_cons hu, bind_of_ok hread]

theorem instructionsWithin_semicolons (h : Semicolons us) (hb : 0 < bound)
    (ht : t.kind = .endOfInput) : instructionsWithin fs bound (us ++ [t]) = .ok ([], [t]) := by
  rw [instructionsWithin_semicolons_append h hb, instructionsWithin_finish ht]

theorem instructionsWithin_instructions (h : Instructions fs us is) (hts : Semicolons ts)
    (hb : (us ++ ts).length < bound) (ht : t.kind = .endOfInput) :
    instructionsWithin fs bound (us ++ (ts ++ [t])) = .ok (is, [t]) := by
  induction h generalizing bound with
  | @single us i hi =>
    cases bound with
    | zero => omega
    | succ bound =>
      cases ts with
      | nil =>
        rw [List.nil_append, instructionsWithin_instruction_append hi (by simp [ht])]
        exact afterInstruction_finish ht
      | cons u ts =>
        obtain ⟨hu, hts⟩ := semicolons_cons.1 hts
        simp only [List.length_append, List.length_cons] at hb
        rw [List.cons_append, instructionsWithin_instruction_append hi (by simp [hu])]
        -- One semicolon is taken with the instruction, the others are skipped at the next turn.
        have hrest : instructionsWithin fs bound (ts ++ [t]) = .ok ([], [t]) :=
          instructionsWithin_semicolons hts (by omega) ht
        exact (afterInstruction_eq_ok (by simp) (by simp [hu])).2 ⟨hu, [], hrest, rfl⟩
  | @cons us i u seps vs is hi hseps hvs ih =>
    cases bound with
    | zero => omega
    | succ bound =>
      obtain ⟨hu, hseps⟩ := semicolons_cons.1 hseps
      simp only [List.length_append, List.length_cons] at hb
      simp only [List.append_assoc, List.cons_append]
      rw [instructionsWithin_instruction_append hi (by simp [hu])]
      refine (afterInstruction_eq_ok (by simp) (by simp [hu])).2 ⟨hu, is, ?_, rfl⟩
      rw [instructionsWithin_semicolons_append hseps (by omega)]
      exact ih (by simp; omega)

theorem instructionsWithin_complete (h : Remainder fs us is) (hb : us.length < bound)
    (ht : t.kind = .endOfInput) : instructionsWithin fs bound (us ++ [t]) = .ok (is, [t]) := by
  cases h with
  | finish hus => exact instructionsWithin_semicolons hus (by omega) ht
  | @more before us is after hbefore his hafter =>
    simp only [List.length_append] at hb
    simp only [List.append_assoc]
    rw [instructionsWithin_semicolons_append hbefore (by omega)]
    exact instructionsWithin_instructions his hafter (by simp; omega) ht

/-! ### Programs -/

theorem Terminated.exists_append (h : Terminated ts) :
    ∃ us t, ts = us ++ [t] ∧ t.kind = .endOfInput := by
  induction h with
  | last ht => exact ⟨[], _, rfl, ht⟩
  | cons _ _ ih =>
    obtain ⟨us, t, rfl, ht⟩ := ih
    exact ⟨_ :: us, t, rfl, ht⟩

variable {p q : Program}

theorem program_sound (hts : Terminated (us ++ [t]))
    (h : Compile.program fs (us ++ [t]) = .ok (p, ts')) : Programming fs us p := by
  rw [Compile.program, bind_remaining] at h
  obtain ⟨is, ts₁, his, hrest⟩ := bind_eq_ok.1 h
  obtain ⟨vs, u, heq, hphrase⟩ := instructionsWithin_sound hts (Nat.le_refl _) his
  obtain ⟨rfl, -⟩ := List.append_inj' heq rfl
  by_cases hempty : is.isEmpty
  · rw [if_pos hempty] at hrest
    cases hrest
  · rw [if_neg hempty] at hrest
    obtain ⟨rfl, rfl⟩ := pure_eq_ok.1 hrest
    exact programming_iff.2 ⟨hphrase, by simpa using hempty, rfl⟩

theorem program_complete (h : Programming fs us p) (ht : t.kind = .endOfInput) :
    Compile.program fs (us ++ [t]) = .ok (p, [t]) := by
  obtain ⟨hphrase, hne, hlimit⟩ := programming_iff.1 h
  obtain ⟨is, limit⟩ := p
  dsimp only at hphrase hne hlimit
  subst hlimit
  have his : instructionsWithin fs (us ++ [t]).length (us ++ [t]) = .ok (is, [t]) :=
    instructionsWithin_complete hphrase (by simp) ht
  rw [Compile.program, bind_remaining, bind_of_ok his, if_neg (by simpa using hne)]
  rfl

/-- The grammar is not ambiguous, as the same reader finds every program. -/
theorem programming_unique (hp : Programming fs us p) (hq : Programming fs us q) : p = q := by
  have hend : (⟨.endOfInput, "", 0⟩ : Token).kind = .endOfInput := rfl
  have h := (program_complete hp hend).symm.trans (program_complete hq hend)
  exact (Prod.mk.inj (Except.ok.inj h)).1

end Compile

/-! ### Sources -/

open Compile

variable {source : String} {tokens : List Token}

theorem terminated_of_scan (h : scan source = .ok tokens) :
    Terminated (tokens.filter fun t => t.kind ≠ .comment) := by
  refine Cursor.tokens_induct (P := fun _ ts => Terminated (ts.filter fun t => t.kind ≠ .comment))
    (fun c after t _ ht => ?_) (fun c after t ts _ ht ih => ?_) h
  · simpa [ht] using Terminated.last ht
  · by_cases hcomment : t.kind = .comment
    · simpa [hcomment] using ih
    · simpa [hcomment] using Terminated.cons ht ih

theorem numeral_of_scan (h : scan source = .ok tokens) :
    ∀ t ∈ tokens, t.kind = .number → Decimal.Numeral t.text.toList := by
  refine Cursor.tokens_induct
    (P := fun _ ts => ∀ t ∈ ts, t.kind = .number → Decimal.Numeral t.text.toList)
    (fun c after t hnext _ => ?_) (fun c after t ts hnext _ ih => ?_) h
  · simpa using Cursor.numeral_of_next hnext
  · exact List.forall_mem_cons.2 ⟨Cursor.numeral_of_next hnext, ih⟩

/-- A number is an operand, so that no source is turned down for the spelling of a number. -/
theorem Decimal.Numeral.exists_primary {t : Token} (h : Decimal.Numeral t.text.toList)
    (hk : t.kind = .number) (fs : Functions) (E : Phrase Expr) : ∃ e, Primary fs E [t] e := by
  cases hn : Decimal.readInt64? t.text with
  | some n => exact ⟨_, .integer hk hn⟩
  | none =>
    obtain ⟨x, hx⟩ := Option.isSome_iff_exists.1 h.isSome_readFloat?
    exact ⟨_, .float hk hn hx⟩

/-- **A source compiles exactly if its tokens are a program of the grammar**, comments and the end
of the input aside, and then to the program that they stand for.  They do not stand for any other
program, and every number among them is an operand. -/
theorem compile_eq_ok_iff (h : scan source = .ok tokens) (fs : Functions) :
    ∃ ts e, tokens.filter (fun t => t.kind ≠ .comment) = ts ++ [e] ∧ e.kind = .endOfInput ∧
      (∀ p, compile fs source = .ok p ↔ Programming fs ts p) ∧
      (∀ p q, Programming fs ts p → Programming fs ts q → p = q) ∧
      ∀ t ∈ ts, t.kind = .number → ∃ operand, Primary fs (Expression fs) [t] operand := by
  have hterm := terminated_of_scan h
  obtain ⟨ts, e, hts, he⟩ := hterm.exists_append
  refine ⟨ts, e, hts, he, fun p => ?_, fun p q => programming_unique, fun t ht hk => ?_⟩
  · have hcompile : compile fs source = ((Compile.program fs).run (ts ++ [e])).map (·.1) := by
      simp only [compile, programTokens, h, hts]
    rw [hts] at hterm
    rw [hcompile]
    constructor
    · intro hp
      cases hprogram : (Compile.program fs).run (ts ++ [e]) with
      | error err => simp [hprogram, Except.map] at hp
      | ok result =>
        obtain ⟨q, ts'⟩ := result
        rw [hprogram] at hp
        cases hp
        exact program_sound hterm hprogram
    · intro hp
      have hprogram : (Compile.program fs).run (ts ++ [e]) = .ok (p, [e]) := program_complete hp he
      rw [hprogram]
      rfl
  · have hmem : t ∈ tokens.filter fun t => t.kind ≠ .comment := by
      rw [hts]
      exact List.mem_append_left _ ht
    exact (numeral_of_scan h t (List.mem_filter.1 hmem).1 hk).exists_primary hk fs _

/-- A source with an operator of every level, and its tree. -/
theorem compile_eq_ok_iff_levels :
    compile (Functions.empty.register "f" (.between 1 2 fun _ => .ok .null))
        "; y := a + 2 * b - -3 < F(c) Or Not d And e" =
      .ok ⟨[.assign "y" (.binary .or
        (.binary .lessThan
          (.binary .subtract
            (.binary .add (.field "a") (.binary .multiply (.integer 2) (.field "b")))
            (.integer (-3)))
          (.call "F" [.field "c"]))
        (.binary .and (.not (.field "d")) (.field "e")))], none⟩ := by
  generalize hfs : Functions.empty.register "f" (.between 1 2 fun _ => .ok .null) = fs
  have hf : fs.get? "F" = some (.between 1 2 fun _ => .ok .null) := hfs ▸ rfl
  let front : List Token :=
    [⟨.endOfStatement, ";", 0⟩, ⟨.word, "y", 2⟩, ⟨.assign, ":=", 4⟩, ⟨.word, "a", 7⟩,
      ⟨.plus, "+", 9⟩, ⟨.number, "2", 11⟩, ⟨.star, "*", 13⟩, ⟨.word, "b", 15⟩, ⟨.minus, "-", 17⟩,
      ⟨.minus, "-", 19⟩, ⟨.number, "3", 20⟩, ⟨.less, "<", 22⟩, ⟨.word, "F", 24⟩,
      ⟨.leftParen, "(", 25⟩, ⟨.word, "c", 26⟩, ⟨.rightParen, ")", 27⟩, ⟨.word, "Or", 29⟩,
      ⟨.word, "Not", 32⟩, ⟨.word, "d", 36⟩, ⟨.word, "And", 38⟩, ⟨.word, "e", 42⟩]
  have hscan : scan "; y := a + 2 * b - -3 < F(c) Or Not d And e" =
      .ok (front ++ [⟨.endOfInput, "", 43⟩]) := rfl
  obtain ⟨ts, e, hts, -, hcompile, -⟩ := compile_eq_ok_iff hscan fs
  have hts : front ++ [⟨.endOfInput, "", 43⟩] = ts ++ [e] := hts
  obtain ⟨rfl, -⟩ := List.append_inj' hts rfl
  have hfield {t : Token} (hk : t.kind = .word)
      (hw : Text.asciiLower t.text ∉ ["true", "false", "null"]) :
      Signed (Primary fs (Expression fs)) [t] (.field t.text) :=
    .operand (by simp [hk]) (.field hk hw)
  have hproduct : LeftGrouped ProductOperator (Signed (Primary fs (Expression fs)))
      [⟨.number, "2", 11⟩, ⟨.star, "*", 13⟩, ⟨.word, "b", 15⟩]
      (.binary .multiply (.integer 2) (.field "b")) :=
    .binary (.operand (.operand (by decide) (.integer rfl (by decide)))) (.multiply rfl)
      (hfield rfl (by decide +kernel))
  have hsigned : Signed (Primary fs (Expression fs)) [⟨.minus, "-", 19⟩, ⟨.number, "3", 20⟩]
      (.integer (-3)) := .integer rfl (.operand (by decide) (.integer rfl (by decide)))
  have hsum : LeftGrouped SumOperator (LeftGrouped ProductOperator (Signed
      (Primary fs (Expression fs)))) [⟨.word, "a", 7⟩, ⟨.plus, "+", 9⟩, ⟨.number, "2", 11⟩,
        ⟨.star, "*", 13⟩, ⟨.word, "b", 15⟩, ⟨.minus, "-", 17⟩, ⟨.minus, "-", 19⟩,
        ⟨.number, "3", 20⟩] _ :=
    .binary (.binary (.operand (.operand (hfield rfl (by decide +kernel)))) (.add rfl) hproduct)
      (.subtract rfl) (.operand hsigned)
  have hc : Expression fs [⟨.word, "c", 26⟩] (.field "c") :=
    .intro <| .operand <| .operand <| .operand (by decide +kernel) <| .operand <| .operand <|
      .operand <| hfield rfl (by decide +kernel)
  have hcall : Signed (Primary fs (Expression fs)) [⟨.word, "F", 24⟩, ⟨.leftParen, "(", 25⟩,
      ⟨.word, "c", 26⟩, ⟨.rightParen, ")", 27⟩] (.call "F" [.field "c"]) :=
    .operand (by decide) (.call rfl hf (.filled rfl (.single hc) rfl) (by decide) (by decide))
  have hcompared : Compared (LeftGrouped SumOperator (LeftGrouped ProductOperator (Signed
      (Primary fs (Expression fs))))) _ _ :=
    .binary hsum (.less (t := ⟨.less, "<", 22⟩) rfl) (.operand (.operand hcall))
  have hnot : Negated (Compared (LeftGrouped SumOperator (LeftGrouped ProductOperator (Signed
      (Primary fs (Expression fs)))))) [⟨.word, "Not", 32⟩, ⟨.word, "d", 36⟩]
      (.not (.field "d")) :=
    .not (by decide +kernel) <| .operand (by decide +kernel) <| .operand <| .operand <|
      .operand <| hfield rfl (by decide +kernel)
  have he : Negated (Compared (LeftGrouped SumOperator (LeftGrouped ProductOperator (Signed
      (Primary fs (Expression fs)))))) [⟨.word, "e", 42⟩] (.field "e") :=
    .operand (by decide +kernel) <| .operand <| .operand <| .operand <|
      hfield rfl (by decide +kernel)
  have hor : Expression fs _ _ :=
    .intro <| .binary (.operand (.operand (.operand (by decide +kernel) hcompared)))
      (.or (t := ⟨.word, "Or", 29⟩) (by decide +kernel))
      (.binary (.operand hnot) (.and (t := ⟨.word, "And", 38⟩) (by decide +kernel)) he)
  have hassign : Instructing fs _ _ :=
    .assign (t := ⟨.word, "y", 2⟩) (a := ⟨.assign, ":=", 4⟩) rfl rfl hor
  have hbefore : Semicolons [⟨.endOfStatement, ";", 0⟩] := semicolons_cons.2 ⟨rfl, semicolons_nil⟩
  exact (hcompile _).2 (.intro hbefore (.single hassign) semicolons_nil)

end RowSieve

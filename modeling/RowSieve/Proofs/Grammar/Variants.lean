import RowSieve.Proofs.Grammar.Relabelling

/-!
# Variants of a dialect

Two settings of a dialect say nothing about its words: whether input behind a statement is an error
and what predicates record.  The strategies do not look at them, so a dialect and its variants split
every source alike (`Dialect.tokenize_variant`).

The two scans hold different dialects, and so their states differ all along.  Each step leads from a
state and its variant to a state and its variant again (`Relay.step_variant`).
-/

namespace RowSieve

variable {σ : Type} (strict : Bool) (recording : Recording)

/-- The dialect with other settings. -/
def Dialect.variant (d : Dialect σ) : Dialect σ := { d with strict, recording }

/-- The scan in the variant of its dialect. -/
def Scan.variant (s : Scan σ) : Scan σ := { s with dialect := s.dialect.variant strict recording }

/-- The relay in the variant of its dialect. -/
def Relay.variant (t : Relay σ) : Relay σ := { t with scan := t.scan.variant strict recording }

namespace Dialect

variable (d : Dialect σ)

@[simp] theorem statement?_variant (kind : Kind) :
    (d.variant strict recording).statement? kind = d.statement? kind := rfl

end Dialect

namespace Scan

variable (s : Scan σ)

@[simp] theorem cursor_variant : (s.variant strict recording).cursor = s.cursor := rfl

theorem clauseEnds_variant : (s.variant strict recording).clauseEnds = s.clauseEnds := rfl

theorem statementStep_variant :
    (s.variant strict recording).statementStep =
      (s.statementStep.1, s.statementStep.2.variant strict recording) := by
  unfold statementStep
  rw [cursor_variant]
  rcases s.cursor.next with ⟨_ | token, cursor⟩
  · rfl
  · dsimp only
    split
    · rfl
    · rfl
    · have hkeyword : (s.variant strict recording).dialect.keyword? token.text =
          s.dialect.keyword? token.text := rfl
      rw [hkeyword]
      cases s.dialect.keyword? token.text with
      | none => rfl
      | some kind =>
        dsimp only [openClause, emit, variant, Dialect.statement?_variant]
        cases (s.statement.or (s.dialect.statement? kind)).bind (·.clause? kind) with
        | none => rfl
        | some clause => rfl
    · rfl

theorem listStep_variant :
    (s.variant strict recording).listStep =
      (s.listStep.1, s.listStep.2.variant strict recording) := by
  unfold listStep
  rw [clauseEnds_variant, cursor_variant]
  split
  · rfl
  · rcases s.cursor.next with ⟨_ | token, cursor⟩
    · rfl
    · rfl

end Scan

namespace Relay

variable (t : Relay Empty)

theorem step_variant :
    (t.variant strict recording).step = t.step.map id (Relay.variant strict recording) := by
  have hadvance : (t.scan.variant strict recording).advance t.current =
      ((t.scan.advance t.current).1, (t.scan.advance t.current).2.variant strict recording) := by
    cases t.current with
    | statement => exact Scan.statementStep_variant strict recording t.scan
    | list => exact Scan.listStep_variant strict recording t.scan
    | other s => exact s.elim
  have hover (scan : Scan Empty) (idle : Nat) (strategy : Strategy Empty) :
      handOver (scan.variant strict recording) idle strategy =
        (handOver scan idle strategy).map id (Relay.variant strict recording) := by
    unfold handOver
    split
    · rfl
    · rfl
  unfold step
  have hparts : (t.variant strict recording).scan = t.scan.variant strict recording ∧
      (t.variant strict recording).current = t.current ∧
      (t.variant strict recording).idle = t.idle := ⟨rfl, rfl, rfl⟩
  rw [hparts.1, hparts.2.1, hparts.2.2, hadvance]
  rcases t.scan.advance t.current with ⟨_ | turn, scan⟩
  · rfl
  · cases turn with
    | stop => rfl
    | again =>
      dsimp only
      by_cases hmoved : scan.cursor.position ≠ t.scan.cursor.position
      · have hmoved' : (scan.variant strict recording).cursor.position ≠
            (t.scan.variant strict recording).cursor.position := hmoved
        rw [if_pos hmoved, if_pos hmoved']
        exact hover _ _ _
      · have hmoved' : ¬ (scan.variant strict recording).cursor.position ≠
            (t.scan.variant strict recording).cursor.position := hmoved
        rw [if_neg hmoved, if_neg hmoved']
        rfl
    | pass strategy => exact hover _ _ _
    | back => exact hover _ _ _

theorem run_variant : (t.variant strict recording).run = t.run := by
  fun_induction Relay.run t with
  | case1 t result h =>
    have hstep := step_variant strict recording t
    rw [h] at hstep
    exact run_of_step_inl hstep
  | case2 t u h ih =>
    have hstep := step_variant strict recording t
    rw [h] at hstep
    rw [run_of_step_inr hstep, ih]

end Relay

/-- The variants of a dialect split sources alike. -/
theorem Dialect.tokenize_variant (d : Dialect Empty) (source : String) :
    (d.variant strict recording).tokenize source = d.tokenize source :=
  Relay.run_variant strict recording (.start (.start d source))

end RowSieve

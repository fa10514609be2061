import RowSieve.Grammar.Scan

/-!
# Every scan ends

Whatever the strategies of a dialect do, taking turns comes to an end, and how many steps it takes is
bounded by the length of the source (`Dialect.scan_ends`).  Strategies need not do the same each
time: `Relay.afterTurns` follows a relay in which every step has a conduct of its own.

A relay is given an allowance, which is what the rest of the source and the patience that is left
are worth together.  A step that does not end the scan costs at least one
(`Relay.Patient.step`), since one more character pays for all of the patience.
-/

namespace RowSieve

variable {σ : Type}

/-- The end of the input is the last token of a finished scan. -/
theorem Scan.exists_finish_eq (s : Scan σ) :
    ∃ ts e, s.finish = ts ++ [e] ∧ e.kind = .endOfInput := by
  unfold finish
  split
  next h =>
    rw [← Array.getLast?_toList, Option.any_eq_true] at h
    obtain ⟨e, he, hk⟩ := h
    obtain ⟨ts, hts⟩ := List.getLast?_eq_some_iff.1 he
    exact ⟨ts, e, hts, of_decide_eq_true hk⟩
  next => exact ⟨_, _, Array.toList_push, rfl⟩

namespace Relay

/-! ### One step -/

/-- What is left of the source and of the patience: each character is worth all of the patience. -/
def allowance (t : Relay σ) : Nat :=
  (patience + 1) * t.scan.cursor.rest.length + (patience + 1 - t.idle)

/-- Patience is not used up. -/
def Patient (t : Relay σ) : Prop := t.idle ≤ patience

theorem Patient.allowance_pos {t : Relay σ} (h : t.Patient) : 0 < t.allowance := by
  unfold Patient at h
  unfold allowance
  omega

section Step

variable [Strategies σ] {t u : Relay σ}

theorem patient_of_step (h : t.step = .inr u) : u.Patient := by
  have key : ∀ {scan : Scan σ} {idle : Nat} {strategy : Strategy σ},
      handOver scan idle strategy = .inr u → u.Patient := by
    intro scan idle strategy hover
    obtain ⟨-, hidle, hle⟩ := handOver_eq_inr hover
    rw [Patient, hidle]
    exact hle
  unfold step at h
  dsimp only at h
  split at h
  · cases h
  · cases h
  · split at h
    · exact key h
    · cases h
  · exact key h
  · exact key h

/-- A step that does not end the scan makes use of the allowance. -/
theorem Patient.step (ht : t.Patient) (h : t.step = .inr u) :
    u.Patient ∧ u.allowance < t.allowance := by
  refine ⟨patient_of_step h, ?_⟩
  unfold Patient at ht
  unfold allowance
  rcases step_decreases h with hlt | ⟨hlength, hidle⟩
  · -- The characters that were taken are worth more than the patience that is given back.
    have hmul := Nat.mul_le_mul_left (patience + 1) (Nat.succ_le_of_lt hlt)
    rw [Nat.mul_succ] at hmul
    omega
  · rw [hlength]
    omega

theorem exists_eq_of_step_eq_ok {tokens : List Token} (h : t.step = .inl (.ok tokens)) :
    ∃ ts e, tokens = ts ++ [e] ∧ e.kind = .endOfInput := by
  have key : ∀ {scan : Scan σ} {idle : Nat} {strategy : Strategy σ},
      handOver scan idle strategy ≠ .inl (.ok tokens) := by
    intro scan idle strategy hover
    unfold handOver at hover
    split at hover
    · cases hover
    · cases hover
  unfold step at h
  dsimp only at h
  split at h
  · cases h
  · cases h
    exact Scan.exists_finish_eq _
  · split at h
    · exact absurd h key
    · cases h
  · exact absurd h key
  · exact absurd h key

end Step

/-! ### Many steps -/

/-- What so many steps make of a relay, where the strategies may do something else at each step.  A
scan that has ended stays as it is. -/
def afterTurns (conduct : Nat → Strategies σ) (t : Relay σ) :
    Nat → Except SourceError (List Token) ⊕ Relay σ
  | 0 => .inr t
  | n + 1 =>
    match afterTurns conduct t n with
    | .inl result => .inl result
    | .inr u => @step σ (conduct n) u

variable {conduct : Nat → Strategies σ} {t u : Relay σ}

/-- As long as the scan goes on, each step has made use of the allowance. -/
theorem Patient.afterTurns (ht : t.Patient) {n : Nat} (h : afterTurns conduct t n = .inr u) :
    u.Patient ∧ u.allowance + n ≤ t.allowance := by
  induction n generalizing u with
  | zero =>
    cases h
    exact ⟨ht, Nat.le_refl _⟩
  | succ n ih =>
    rw [Relay.afterTurns] at h
    split at h
    · cases h
    next v hv =>
      obtain ⟨hpatient, hle⟩ := ih hv
      obtain ⟨hu, hlt⟩ := @Patient.step σ (conduct n) v u hpatient h
      exact ⟨hu, by omega⟩

/-- The allowance is enough for the whole scan. -/
theorem Patient.exists_afterTurns_eq (ht : t.Patient) (conduct : Nat → Strategies σ) {n : Nat}
    (hn : t.allowance ≤ n) :
    ∃ result, Relay.afterTurns conduct t n = .inl result := by
  cases h : Relay.afterTurns conduct t n with
  | inl result => exact ⟨result, rfl⟩
  | inr u =>
    obtain ⟨hu, hle⟩ := ht.afterTurns h
    have := hu.allowance_pos
    omega

theorem exists_eq_of_afterTurns_eq_ok {n : Nat} {tokens : List Token}
    (h : afterTurns conduct t n = .inl (.ok tokens)) :
    ∃ ts e, tokens = ts ++ [e] ∧ e.kind = .endOfInput := by
  induction n with
  | zero => cases h
  | succ n ih =>
    rw [afterTurns] at h
    split at h
    next result hresult =>
      cases h
      exact ih hresult
    next v _ => exact @exists_eq_of_step_eq_ok σ (conduct n) v tokens h

/-- Strategies that always do the same take their turns as `Relay.run` lets them. -/
theorem run_eq_of_afterTurns [s : Strategies σ] (hconduct : ∀ n, conduct n = s) (n : Nat) :
    (afterTurns conduct t n).elim (t.run = ·) (t.run = ·.run) := by
  induction n with
  | zero => rfl
  | succ n ih =>
    rw [afterTurns]
    cases hturns : afterTurns conduct t n with
    | inl result =>
      rw [hturns] at ih
      exact ih
    | inr u =>
      rw [hturns] at ih
      have hrun : t.run = u.run := ih
      have hstep : @step σ (conduct n) u = u.step := by rw [hconduct n]
      dsimp only
      rw [hstep, hrun, run]
      split
      next result hresult =>
        rw [hresult]
        rfl
      next v hv =>
        rw [hv]
        rfl

end Relay

/-- **Every scan ends**, with tokens or an error, after at most nine steps for each byte of the source
and nine more, whatever the strategies of the dialect do at each of these steps; and the end of the
input is the last of the tokens.  For strategies that always do the same, this is the scan that
`Dialect.tokenize` makes. -/
theorem Dialect.scan_ends (d : Dialect σ) (source : String) (conduct : Nat → Strategies σ) :
    ∃ result,
      Relay.afterTurns conduct (.start (.start d source))
        ((patience + 1) * (source.utf8ByteSize + 1)) = .inl result ∧
      (∀ tokens, result = .ok tokens → ∃ ts e, tokens = ts ++ [e] ∧ e.kind = .endOfInput) ∧
      ∀ s : Strategies σ, (∀ n, conduct n = s) → d.tokenize source = result := by
  have hpatient : (Relay.start (Scan.start d source)).Patient := Nat.zero_le patience
  have hallowance : (Relay.start (Scan.start d source)).allowance ≤
      (patience + 1) * (source.utf8ByteSize + 1) := by
    have hlength : source.toList.length ≤ source.utf8ByteSize :=
      byteLength_toList source ▸ length_le_byteLength source.toList
    exact Nat.mul_le_mul_left (patience + 1) (Nat.succ_le_succ hlength)
  obtain ⟨result, hresult⟩ := hpatient.exists_afterTurns_eq conduct hallowance
  refine ⟨result, hresult, ?_, ?_⟩
  · rintro tokens rfl
    exact Relay.exists_eq_of_afterTurns_eq_ok hresult
  · intro s hs
    have hrun := Relay.run_eq_of_afterTurns (t := .start (.start d source)) hs
      ((patience + 1) * (source.utf8ByteSize + 1))
    rw [hresult] at hrun
    exact hrun

end RowSieve

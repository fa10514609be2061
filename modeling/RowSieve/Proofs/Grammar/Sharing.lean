import Mathlib.Order.Basic
import RowSieve.Grammar.Sharing
import RowSieve.Proofs.Grammar.Established

/-!
# Registries that several callers use

Registries are ordered by what they describe, and every access goes up in that order
(`Procedure.le_of_access`).  `Procedure.Ensures` says what a procedure achieves if others may add to
the registry before each of its accesses.

Between the checks of `Declarations.establishing` and its registrations anything can be registered,
so a check that was passed need not hold any more when the dialect is there.  What makes it hold
again are the registrations themselves; and a look-up that found a kind finds it for ever
(`Procedure.Firm`).  So declarations that have been established once are *settled*: to establish them
again gives the same dialect and changes nothing, whoever else is at work
(`Sharing.establish_again`).
-/

namespace RowSieve

namespace Registry

/-- What a registry describes, a later one describes in the same way. -/
instance : Preorder Registry where
  le r r' := ∀ kind description, r.describe? kind = some description →
    r'.describe? kind = some description
  le_refl _ _ _ h := h
  le_trans _ _ _ h h' kind description hd := h' kind description (h kind description hd)

variable {r r' : Registry} {kind : Kind} {description : String}

theorem le_of_register (h : r.register kind description = .ok r') : r ≤ r' := by
  intro k d hd
  rw [describe?_register h, hd, Option.some_or]

theorem describe?_shared : ∀ entry ∈ Kind.shared, shared.describe? entry.1 = some entry.2 := by
  decide

theorem exists_mem_of_contains (h : r.contains kind = true) :
    ∃ entry ∈ r.kinds, entry.1 = kind := by
  obtain ⟨entry, hmem, heq⟩ := List.lookup_isSome_iff.1 h
  exact ⟨entry, hmem, (beq_iff_eq.1 heq).symm⟩

theorem contains_of_le (h : r ≤ r') (hr : r.contains kind = true) : r'.contains kind = true := by
  obtain ⟨d, hd⟩ := Option.isSome_iff_exists.1 hr
  exact Option.isSome_iff_exists.2 ⟨d, h kind d hd⟩

/-- Only kinds that dialects may use are registered. -/
theorem contains_of_register (h : r.register kind description = .ok r') {k : Kind}
    (hk : r'.contains k = true) : r.contains k = true ∨ Kind.firstCustom ≤ k.code := by
  rw [contains, describe?_register h, Option.isSome_or, Bool.or_eq_true] at hk
  refine hk.imp_right fun hk => ?_
  obtain rfl : k = kind := by
    by_contra hne
    simp [hne] at hk
  have hfree := (check_eq_ok_iff.1 (register_eq_ok_iff.1 h).1).1
  simpa [Kind.isReserved] using hfree

/-- The kind is registered under the description. -/
def Lists (r : Registry) (entry : Kind × String) : Prop :=
  entry.1.isReserved = false ∧ r.describe? entry.1 = some entry.2

theorem Lists.of_le {entry : Kind × String} (hr : r.Lists entry) (h : r ≤ r') : r'.Lists entry :=
  ⟨hr.1, h _ _ hr.2⟩

theorem Lists.check (hr : r.Lists (kind, description)) : r.check kind description = .ok () := by
  refine check_eq_ok_iff.2 ⟨hr.1, fun d hd => ?_⟩
  exact Option.some.inj (hd.symm.trans hr.2)

theorem Lists.register (hr : r.Lists (kind, description)) :
    r.register kind description = .ok r := by
  refine register_eq_ok_iff.2 ⟨hr.check, ?_⟩
  have hknown : r.contains kind = true := Option.isSome_iff_exists.2 ⟨description, hr.2⟩
  rw [if_pos hknown]

theorem lists_of_register (h : r.register kind description = .ok r') :
    r'.Lists (kind, description) := by
  obtain ⟨hfree, hsame⟩ := check_eq_ok_iff.1 (register_eq_ok_iff.1 h).1
  refine ⟨hfree, ?_⟩
  rw [describe?_register h, if_pos rfl]
  cases hd : r.describe? kind with
  | none => rfl
  | some d => rw [hsame d hd, Option.some_or]

end Registry

namespace Procedure

variable {α β : Type}

theorem le_of_access {p q : Procedure α} {r r' : Registry} (h : p.access r = some (q, r')) :
    r ≤ r' := by
  cases p with
  | done answer => cases h
  | failed e => cases h
  | look kind next =>
    cases h
    exact le_refl r
  | check kind description next =>
    rw [access] at h
    split at h <;> cases h <;> exact le_refl r
  | register kind description next =>
    rw [access] at h
    split at h <;> cases h
    next hr => exact Registry.le_of_register hr
    next => exact le_refl r

theorem contains_of_access {p q : Procedure α} {r r' : Registry}
    (h : p.access r = some (q, r')) {k : Kind} (hk : r'.contains k = true) :
    r.contains k = true ∨ Kind.firstCustom ≤ k.code := by
  cases p with
  | done answer => cases h
  | failed e => cases h
  | look kind next =>
    cases h
    exact .inl hk
  | check kind description next =>
    rw [access] at h
    split at h <;> cases h <;> exact .inl hk
  | register kind description next =>
    rw [access] at h
    split at h <;> cases h
    next hr => exact Registry.contains_of_register hr hk
    next => exact .inl hk

/-! ### Procedures among others -/

/-- Whatever others add to the registry before each access, the accesses change the registry only
as `change` allows, and the result satisfies `post` with the registry of that time. -/
def Ensures (change : Registry → Registry → Prop) (post : Except Conflict α → Registry → Prop) :
    Procedure α → Registry → Prop
  | done answer, r => post (.ok answer) r
  | failed e, r => post (.error e) r
  | check kind description next, r => ∀ r', r ≤ r' →
    match r'.check kind description with
    | .ok _ => next.Ensures change post r'
    | .error e => post (.error e) r'
  | look kind next, r => ∀ r', r ≤ r' → (next (r'.contains kind)).Ensures change post r'
  | register kind description next, r => ∀ r', r ≤ r' →
    match r'.register kind description with
    | .ok r'' => change r' r'' ∧ next.Ensures change post r''
    | .error e => post (.error e) r'

variable {change : Registry → Registry → Prop} {post post' : Except Conflict α → Registry → Prop}
  {p q : Procedure α} {r r' : Registry}

/-- What a result says about a registry remains true as others add to it. -/
def Lasting (post : Except Conflict α → Registry → Prop) : Prop :=
  ∀ x r r', r ≤ r' → post x r → post x r'

theorem Ensures.of_le (h : p.Ensures change post r) (hpost : Lasting post) (hr : r ≤ r') :
    p.Ensures change post r' := by
  cases p with
  | done answer => exact hpost _ _ _ hr h
  | failed e => exact hpost _ _ _ hr h
  | look kind next => exact fun r'' hr' => h r'' (hr.trans hr')
  | check kind description next => exact fun r'' hr' => h r'' (hr.trans hr')
  | register kind description next => exact fun r'' hr' => h r'' (hr.trans hr')

/-- The result comes with a registry that is later than the first one. -/
theorem Ensures.imp (h : p.Ensures change post r)
    (himp : ∀ x r', r ≤ r' → post x r' → post' x r') : p.Ensures change post' r := by
  induction p generalizing r with
  | done answer => exact himp _ r le_rfl h
  | failed e => exact himp _ r le_rfl h
  | look kind next ih =>
    intro r' hr
    exact ih _ (h r' hr) fun x r'' hr' => himp x r'' (hr.trans hr')
  | check kind description next ih =>
    intro r' hr
    have hnext := h r' hr
    cases hc : r'.check kind description with
    | error e =>
      rw [hc] at hnext
      exact himp _ r' hr hnext
    | ok u =>
      rw [hc] at hnext
      exact ih hnext fun x r'' hr' => himp x r'' (hr.trans hr')
  | register kind description next ih =>
    intro r' hr
    have hnext := h r' hr
    cases hc : r'.register kind description with
    | error e =>
      rw [hc] at hnext
      exact himp _ r' hr hnext
    | ok r'' =>
      rw [hc] at hnext
      have hr'' := hr.trans (Registry.le_of_register hc)
      exact ⟨hnext.1, ih hnext.2 fun x r₃ hr' => himp x r₃ (hr''.trans hr')⟩

/-- One procedure after the other. -/
theorem Ensures.andThen {f : α → Procedure β} {goal : Except Conflict β → Registry → Prop}
    (h : p.Ensures change (fun x r => match x with
      | .ok answer => (f answer).Ensures change goal r
      | .error e => goal (.error e) r) r) :
    (p.andThen f).Ensures change goal r := by
  induction p generalizing r with
  | done answer => exact h
  | failed e => exact h
  | look kind next ih => exact fun r' hr => ih _ (h r' hr)
  | check kind description next ih =>
    intro r' hr
    have hnext := h r' hr
    cases hc : r'.check kind description with
    | error e =>
      rw [hc] at hnext
      exact hnext
    | ok u =>
      rw [hc] at hnext
      exact ih hnext
  | register kind description next ih =>
    intro r' hr
    have hnext := h r' hr
    cases hc : r'.register kind description with
    | error e =>
      rw [hc] at hnext
      exact hnext
    | ok r'' =>
      rw [hc] at hnext
      exact ⟨hnext.1, ih hnext.2⟩

theorem Ensures.access (h : p.Ensures change post r) (hp : p.access r = some (q, r')) :
    (r' = r ∨ change r r') ∧ q.Ensures change post r' := by
  cases p with
  | done answer => cases hp
  | failed e => cases hp
  | look kind next =>
    cases hp
    exact ⟨.inl rfl, h r le_rfl⟩
  | check kind description next =>
    have hnext := h r le_rfl
    rw [Procedure.access] at hp
    split at hp
    all_goals
      next hc =>
        rw [hc] at hnext
        cases hp
        exact ⟨.inl rfl, hnext⟩
  | register kind description next =>
    have hnext := h r le_rfl
    rw [Procedure.access] at hp
    split at hp
    next hc =>
      rw [hc] at hnext
      cases hp
      exact ⟨.inr hnext.1, hnext.2⟩
    next hc =>
      rw [hc] at hnext
      cases hp
      exact ⟨.inl rfl, hnext⟩

/-- The procedure answers in the same way, and leaves the registry alone, whatever others add to
it. -/
def Settled (p : Procedure α) (answer : α) (r : Registry) : Prop :=
  p.Ensures (fun r r' => r' = r) (fun x _ => x = .ok answer) r

/-- If the procedure answers, then it is settled from that time on. -/
def Settles (p : Procedure α) (r : Registry) : Prop :=
  p.Ensures (fun _ _ => True) (fun x r => ∀ answer, x = .ok answer → p.Settled answer r) r

theorem Settled.of_le {answer : α} (h : p.Settled answer r) (hr : r ≤ r') : p.Settled answer r' :=
  Ensures.of_le h (fun _ _ _ _ hx => hx) hr

theorem Settled.andThen {f : α → Procedure β} {answer : α} {result : β}
    (h : p.Settled answer r) (hf : ∀ r', r ≤ r' → (f answer).Settled result r') :
    (p.andThen f).Settled result r := by
  apply Ensures.andThen
  refine h.imp fun x r' hr hx => ?_
  cases hx
  exact hf r' hr

/-- Alone with the registry, a settled procedure does what it does among others. -/
theorem Settled.run_eq {answer : α} (h : p.Settled answer r) : p.run r = (.ok answer, r) := by
  induction p with
  | done a =>
    cases h
    rfl
  | failed e => cases h
  | look kind next ih => exact ih _ (h r le_rfl)
  | check kind description next ih =>
    have hnext := h r le_rfl
    rw [run]
    cases hc : r.check kind description with
    | error e =>
      rw [hc] at hnext
      cases hnext
    | ok u =>
      rw [hc] at hnext
      exact ih hnext
  | register kind description next ih =>
    have hnext := h r le_rfl
    rw [run]
    cases hc : r.register kind description with
    | error e =>
      rw [hc] at hnext
      cases hnext
    | ok r' =>
      rw [hc] at hnext
      obtain ⟨rfl, hnext⟩ := hnext
      exact ih hnext

/-- A procedure that only looks kinds up, and cannot do with an unknown kind what it would not do
with a known one. -/
def Firm : Procedure α → Prop
  | done _ => True
  | failed _ => True
  | look _ next =>
    (next true).Firm ∧ (next false = next true ∨ ∃ e, next false = failed e)
  | check _ _ _ => False
  | register _ _ _ => False

theorem Firm.andThen {f : α → Procedure β} (h : p.Firm) (hf : ∀ answer, (f answer).Firm) :
    (p.andThen f).Firm := by
  induction p with
  | done answer => exact hf answer
  | failed e => exact trivial
  | look kind next ih =>
    refine ⟨ih true h.1, ?_⟩
    rcases h.2 with heq | ⟨e, he⟩
    · exact .inl (congrArg (·.andThen f) heq)
    · exact .inr ⟨e, congrArg (·.andThen f) he⟩
  | check kind description next => exact h.elim
  | register kind description next => exact h.elim

/-- A kind that was found will be found again, and one that was not found made no difference. -/
theorem Firm.settles (h : p.Firm) (r : Registry) : p.Settles r := by
  induction p generalizing r with
  | done answer =>
    rintro a ⟨⟩
    rfl
  | failed e =>
    rintro a ⟨⟩
  | look kind next ih =>
    intro r₁ hr₁
    have hcase : (∀ r₂, r₁ ≤ r₂ → next (r₂.contains kind) = next true) ∨
        ∃ e, next (r₁.contains kind) = failed e := by
      cases hk : r₁.contains kind with
      | true => exact .inl fun r₂ hr₂ => by rw [Registry.contains_of_le hr₂ hk]
      | false =>
        refine h.2.imp_left fun heq r₂ hr₂ => ?_
        cases r₂.contains kind with
        | true => rfl
        | false => exact heq
    rcases hcase with hsame | ⟨e, he⟩
    · rw [hsame r₁ le_rfl]
      refine (ih true h.1 r₁).imp fun x r₂ hr₂ hx answer ha r₃ hr₃ => ?_
      rw [hsame r₃ (hr₂.trans hr₃)]
      exact (hx answer ha).of_le hr₃
    · rw [he]
      rintro answer ⟨⟩
  | check kind description next => exact h.elim
  | register kind description next => exact h.elim

theorem run_andThen (p : Procedure α) (f : α → Procedure β) (r : Registry) :
    (p.andThen f).run r = match p.run r with
      | (.ok answer, r') => (f answer).run r'
      | (.error e, r') => (.error e, r') := by
  induction p generalizing r with
  | done answer => rfl
  | failed e => rfl
  | look kind next ih => exact ih _ r
  | check kind description next ih =>
    rw [andThen, run, run]
    cases r.check kind description with
    | error e => rfl
    | ok u => exact ih r
  | register kind description next ih =>
    rw [andThen, run, run]
    cases r.register kind description with
    | error e => rfl
    | ok r' => exact ih r'

end Procedure

/-! ### Establishing a dialect -/

namespace Declarations

open Procedure

variable {σ : Type} {decl : Declarations σ} {r : Registry}

section Undisturbed

theorem run_checkingKinds (kinds : List (Kind × String)) (r : Registry) :
    (checkingKinds kinds).run r = (checkKinds r kinds, r) := by
  induction kinds with
  | nil => rfl
  | cons entry kinds ih =>
    obtain ⟨kind, description⟩ := entry
    rw [checkingKinds, run, checkKinds]
    cases r.check kind description with
    | error e => rfl
    | ok u => exact ih

theorem run_addingKeywords (table : Dictionary Kind) (spellings : List (String × Kind))
    (r : Registry) :
    (decl.addingKeywords table spellings).run r = (decl.addKeywords r table spellings, r) := by
  induction spellings generalizing table with
  | nil => rfl
  | cons spelling spellings ih =>
    obtain ⟨word, kind⟩ := spelling
    rw [addingKeywords, run, addKeywords]
    change (if (!decl.knows r kind) = true then _ else _ : Procedure _).run r = _
    split
    · rfl
    · cases table.get? word with
      | none => exact ih _
      | some first =>
        dsimp only
        split
        · exact ih _
        · rfl

theorem run_checkingClauses (table : Dictionary Kind) (clauses : List (Clause σ))
    (r : Registry) :
    (decl.checkingClauses table clauses).run r = (decl.checkClauses r table clauses, r) := by
  induction clauses with
  | nil => rfl
  | cons clause clauses ih =>
    rw [checkingClauses, run, checkClauses]
    change (if (!decl.knows r clause.keyword) = true then _ else _ : Procedure _).run r = _
    split
    · rfl
    · split
      · rfl
      · exact ih

theorem run_checkingStatements (table : Dictionary Kind) (seen : List Kind)
    (statements : List (Statement σ)) (r : Registry) :
    (decl.checkingStatements table seen statements).run r =
      (decl.checkStatements r table seen statements, r) := by
  induction statements generalizing seen with
  | nil => rfl
  | cons statement statements ih =>
    rw [checkingStatements, checkStatements]
    cases statement.clauses with
    | nil => rfl
    | cons first clauses =>
      dsimp only
      split
      · rfl
      · rw [run_andThen, run_checkingClauses]
        cases decl.checkClauses r table (first :: clauses) with
        | error e => rfl
        | ok u =>
          dsimp only [bind, Except.bind]
          split
          · rfl
          · exact ih _

theorem run_registeringAll (kinds : List (Kind × String)) (r : Registry) :
    (registeringAll kinds).run r =
      (match (r.registerAll kinds).1 with
        | none => .ok ()
        | some e => .error e, (r.registerAll kinds).2) := by
  induction kinds generalizing r with
  | nil => rfl
  | cons entry kinds ih =>
    obtain ⟨kind, description⟩ := entry
    rw [registeringAll, run, Registry.registerAll]
    cases r.register kind description with
    | error e => rfl
    | ok r' => exact ih r'

/-- The accesses of a caller whom nobody disturbs make up the whole. -/
theorem run_establishing (decl : Declarations σ) (r : Registry) :
    decl.establishing.run r = decl.establish r := by
  rw [establishing, preparing, run_andThen, run_checkingKinds, establish, validate]
  cases checkKinds r decl.kinds with
  | error e => rfl
  | ok u =>
    dsimp only [bind, Except.bind]
    rw [run_andThen, run_andThen, run_addingKeywords]
    cases decl.addKeywords r .empty decl.spellings with
    | error e => rfl
    | ok table =>
      dsimp only
      rw [run_andThen, run_checkingStatements]
      cases decl.checkStatements r table [] decl.statements with
      | error e => rfl
      | ok u =>
        dsimp only [pure, Except.pure, run]
        rw [run_andThen, run_registeringAll]
        cases (r.registerAll decl.kinds).1 with
        | none => rfl
        | some e => rfl

end Undisturbed

theorem firm_addingKeywords (table : Dictionary Kind) (spellings : List (String × Kind)) :
    (decl.addingKeywords table spellings).Firm := by
  induction spellings generalizing table with
  | nil => exact trivial
  | cons spelling spellings ih =>
    obtain ⟨word, kind⟩ := spelling
    refine ⟨?_, ?_⟩
    · simp only [Bool.true_or, Bool.not_true, Bool.false_eq_true, if_false]
      cases table.get? word with
      | none => exact ih _
      | some first =>
        dsimp only
        split
        · exact ih _
        · exact trivial
    · cases decl.declares kind
      · exact .inr ⟨_, rfl⟩
      · exact .inl rfl

theorem firm_checkingClauses (table : Dictionary Kind) (clauses : List (Clause σ)) :
    (decl.checkingClauses table clauses).Firm := by
  induction clauses with
  | nil => exact trivial
  | cons clause clauses ih =>
    refine ⟨?_, ?_⟩
    · simp only [Bool.true_or, Bool.not_true, Bool.false_eq_true, if_false]
      split
      · exact trivial
      · exact ih
    · cases decl.declares clause.keyword
      · exact .inr ⟨_, rfl⟩
      · exact .inl rfl

theorem firm_checkingStatements (table : Dictionary Kind) (seen : List Kind)
    (statements : List (Statement σ)) :
    (decl.checkingStatements table seen statements).Firm := by
  induction statements generalizing seen with
  | nil => exact trivial
  | cons statement statements ih =>
    rw [checkingStatements]
    cases statement.clauses with
    | nil => exact trivial
    | cons first clauses =>
      dsimp only
      split
      · exact trivial
      · refine (firm_checkingClauses table _).andThen fun _ => ?_
        split
        · exact trivial
        · exact ih _

theorem firm_preparing (decl : Declarations σ) : decl.preparing.Firm :=
  (firm_addingKeywords _ _).andThen fun table =>
    (firm_checkingStatements table _ _).andThen fun _ => trivial

theorem settled_checkingKinds {kinds : List (Kind × String)}
    (h : ∀ entry ∈ kinds, r.Lists entry) : (checkingKinds kinds).Settled () r := by
  induction kinds generalizing r with
  | nil => rfl
  | cons entry kinds ih =>
    intro r' hr
    rw [((h entry (.head _)).of_le hr).check]
    exact ih fun e he => (h e (.tail _ he)).of_le hr

theorem settled_registeringAll {kinds : List (Kind × String)}
    (h : ∀ entry ∈ kinds, r.Lists entry) : (registeringAll kinds).Settled () r := by
  induction kinds generalizing r with
  | nil => rfl
  | cons entry kinds ih =>
    intro r' hr
    rw [((h entry (.head _)).of_le hr).register]
    exact ⟨rfl, ih fun e he => (h e (.tail _ he)).of_le hr⟩

/-- What has been registered is in the registry, whoever else has been at work. -/
theorem ensures_registeringAll (kinds : List (Kind × String)) (r : Registry) :
    (registeringAll kinds).Ensures (fun _ _ => True)
      (fun x r => x = .ok () → ∀ entry ∈ kinds, r.Lists entry) r := by
  induction kinds generalizing r with
  | nil =>
    rintro - entry ⟨⟩
  | cons entry kinds ih =>
    intro r₁ _
    cases hr : r₁.register entry.1 entry.2 with
    | error e => rintro ⟨⟩
    | ok r₂ =>
      refine ⟨trivial, (ih r₂).imp fun x r₃ hr₃ hx hok => ?_⟩
      exact List.forall_mem_cons.2 ⟨(Registry.lists_of_register hr).of_le hr₃, hx hok⟩

theorem ensures_checkingKinds (kinds : List (Kind × String)) (r : Registry) :
    (checkingKinds kinds).Ensures (fun _ _ => True) (fun _ _ => True) r := by
  induction kinds generalizing r with
  | nil => exact trivial
  | cons entry kinds ih =>
    intro r' _
    cases r'.check entry.1 entry.2 with
    | error e => exact trivial
    | ok u => exact ih r'

/-- Declarations that have been established are settled. -/
theorem settles_establishing (decl : Declarations σ) (r : Registry) :
    decl.establishing.Settles r := by
  refine Ensures.andThen ((ensures_checkingKinds decl.kinds r).imp fun x r₁ _ _ => ?_)
  match x with
  | .error e => rintro answer ⟨⟩
  | .ok () =>
  refine Ensures.andThen ((decl.firm_preparing.settles r₁).imp fun x r₂ _ hd => ?_)
  match x with
  | .error e => rintro answer ⟨⟩
  | .ok d =>
  refine Ensures.andThen ((ensures_registeringAll decl.kinds r₂).imp fun x r₃ hr hlists => ?_)
  match x with
  | .error e => rintro answer ⟨⟩
  | .ok () =>
  rintro answer ⟨⟩
  -- Now every part is settled: the checks again because all kinds have been registered.
  have hlists := hlists rfl
  refine (settled_checkingKinds hlists).andThen fun r₄ hr₄ => ?_
  refine ((hd d rfl).of_le (hr.trans hr₄)).andThen fun r₅ hr₅ => ?_
  refine (settled_registeringAll fun e he => ?_).andThen fun _ _ => rfl
  exact (hlists e he).of_le (hr₄.trans hr₅)

end Declarations

/-- What a call has settled, if it was made to establish a dialect. -/
def Task.Settled {σ : Type} (decl : Declarations σ) (x : Except Conflict (Option (Dialect σ)))
    (r : Registry) : Prop :=
  ∀ d, x = .ok (some d) →
    decl.establishing.Settled d r ∧ (Task.establish decl).procedure.Settled (some d) r

theorem Task.lasting_settled {σ : Type} (decl : Declarations σ) :
    Procedure.Lasting (Task.Settled decl) :=
  fun _ _ _ hr hx d hd => (hx d hd).imp (·.of_le hr) (·.of_le hr)

/-- A dialect that has been established can be established again, from then on at any time and
whoever else is at work. -/
theorem Task.settles_establish {σ : Type} (decl : Declarations σ) (r : Registry) :
    (Task.establish decl).procedure.Ensures (fun _ _ => True) (Task.Settled decl) r := by
  refine Procedure.Ensures.andThen ((decl.settles_establishing r).imp fun x r' _ hx => ?_)
  match x with
  | .error e => rintro d ⟨⟩
  | .ok d =>
    rintro d' ⟨⟩
    exact ⟨hx d rfl, (hx d rfl).andThen fun _ _ => rfl⟩

namespace Sharing

open Procedure

variable {σ : Type} {s t : Sharing σ}

/-! ### What every step preserves -/

theorem Step.le (h : Step s t) : s.registry ≤ t.registry := by
  cases h with
  | call task => exact le_rfl
  | access hc haccess => exact le_of_access haccess

theorem Step.contains (h : Step s t) {kind : Kind} (hk : t.registry.contains kind = true) :
    s.registry.contains kind = true ∨ Kind.firstCustom ≤ kind.code := by
  cases h with
  | call task => exact .inl hk
  | access hc haccess => exact contains_of_access haccess hk

/-- Each call that goes on has a procedure that ensures what the one of its task ensures. -/
theorem Step.ensures {change : Registry → Registry → Prop}
    {post : Except Conflict (Option (Dialect σ)) → Registry → Prop} {task : Task σ} {first : Nat}
    (h : Step s t) (hpost : Lasting post)
    (htask : task.procedure.Ensures change post s.registry)
    (hcalls : ∀ i rest, first ≤ i → s.calls[i]? = some ⟨task, rest⟩ →
      rest.Ensures change post s.registry) (i : Nat) (rest : Procedure (Option (Dialect σ)))
    (hi : first ≤ i) (hrest : t.calls[i]? = some ⟨task, rest⟩) :
    rest.Ensures change post t.registry := by
  cases h with
  | call task' =>
    dsimp only at hrest ⊢
    rw [List.getElem?_append] at hrest
    split at hrest
    · exact hcalls i rest hi hrest
    · rw [List.getElem?_singleton] at hrest
      split at hrest
      · cases hrest
        exact htask
      · cases hrest
  | @access j c rest' r hc haccess =>
    dsimp only at hrest ⊢
    rw [List.getElem?_set] at hrest
    split at hrest
    next hij =>
      -- The call itself: what was left of it has made an access.
      subst hij
      split at hrest
      · cases hrest
        exact ((hcalls j c.rest hi hc).access haccess).2
      · cases hrest
    next => exact (hcalls i rest hi hrest).of_le hpost (le_of_access haccess)

theorem Steps.le (h : Steps s t) : s.registry ≤ t.registry := by
  induction h with
  | refl => exact le_rfl
  | tail _ hstep ih => exact ih.trans hstep.le

theorem Steps.contains (h : Steps s t) {kind : Kind} (hk : t.registry.contains kind = true) :
    s.registry.contains kind = true ∨ Kind.firstCustom ≤ kind.code := by
  induction h with
  | refl => exact .inl hk
  | tail _ hstep ih =>
    rcases hstep.contains hk with hk | hk
    · exact ih hk
    · exact .inr hk

/-- What the procedure of a task ensures, it ensures among the calls of others. -/
theorem Steps.ensures {change : Registry → Registry → Prop}
    {post : Except Conflict (Option (Dialect σ)) → Registry → Prop} {task : Task σ}
    (h : Steps s t) (hpost : Lasting post)
    (htask : task.procedure.Ensures change post s.registry) (i : Nat)
    (rest : Procedure (Option (Dialect σ))) (hi : s.calls.length ≤ i)
    (hrest : t.calls[i]? = some ⟨task, rest⟩) : rest.Ensures change post t.registry := by
  induction h generalizing i rest with
  | refl => rw [List.getElem?_eq_none hi] at hrest; cases hrest
  | tail hsteps hstep ih =>
    exact hstep.ensures hpost (htask.of_le hpost hsteps.le) ih i rest hi hrest

/-- One way to go on: a call makes all its accesses before anybody else makes one. -/
theorem Steps.run {i : Nat} {task : Task σ} {rest : Procedure (Option (Dialect σ))}
    {answer : Option (Dialect σ)} {r : Registry} (h : Steps s t)
    (hi : t.calls[i]? = some ⟨task, rest⟩) (hrun : rest.run t.registry = (.ok answer, r)) :
    Steps s ⟨r, t.calls.set i ⟨task, .done answer⟩⟩ := by
  obtain ⟨hlt, hget⟩ := List.getElem?_eq_some_iff.1 hi
  have hset (c : RegistryCall σ) : (t.calls.set i c)[i]? = some c := List.getElem?_set_self hlt
  induction rest generalizing t with
  | done a =>
    cases hrun
    rw [← hget, List.set_getElem_self]
    exact h
  | failed e => cases hrun
  | look kind next ih =>
    have hsteps := ih _ (h.tail (.access hi rfl)) (hset _) hrun (by simpa) (by simp) (by simpa)
    rwa [List.set_set] at hsteps
  | check kind description next ih =>
    rw [Procedure.run] at hrun
    cases hc : t.registry.check kind description with
    | error e => rw [hc] at hrun; cases hrun
    | ok u =>
      rw [hc] at hrun
      have haccess : (Procedure.check kind description next).access t.registry =
          some (next, t.registry) := by rw [access, hc]
      have hsteps := ih (h.tail (.access hi haccess)) (hset _) hrun (by simpa) (by simp) (by simpa)
      rwa [List.set_set] at hsteps
  | register kind description next ih =>
    rw [Procedure.run] at hrun
    cases hc : t.registry.register kind description with
    | error e => rw [hc] at hrun; cases hrun
    | ok r₁ =>
      rw [hc] at hrun
      have haccess : (Procedure.register kind description next).access t.registry =
          some (next, r₁) := by rw [access, hc]
      have hsteps := ih (h.tail (.access hi haccess)) (hset _) hrun (by simpa) (by simp) (by simpa)
      rwa [List.set_set] at hsteps

/-- To establish a dialect all at once is one of the ways to establish it. -/
theorem Steps.establish {decl : Declarations σ} {d : Dialect σ} {r : Registry} (h : Steps s t)
    (hrun : decl.establish t.registry = (.ok d, r)) :
    Steps s ⟨r, t.calls ++ [⟨.establish decl, .done (some d)⟩]⟩ := by
  have hcall := h.tail (.call t (.establish decl))
  have hprocedure : (Task.establish decl).procedure.run t.registry = (.ok (some d), r) := by
    rw [Task.procedure, run_andThen, decl.run_establishing, hrun]
    rfl
  have hsteps := hcall.run List.getElem?_concat_length hprocedure
  rwa [List.set_append_right _ _ (Nat.le_refl _), Nat.sub_self] at hsteps

/-! ### Once and again -/

/-- **Kinds are never forgotten or described anew, and declarations that have been established can be
established again.**  The callers may make their accesses in any order: a later call for the same
declarations does nothing to the registry, and it ends with the same dialect. -/
theorem establish_again (hs : Steps start s) (ht : Steps s t) :
    (∀ entry ∈ Kind.shared, s.registry.describe? entry.1 = some entry.2) ∧
    (∀ kind, s.registry.contains kind = true →
      (∃ entry ∈ Kind.shared, entry.1 = kind) ∨ Kind.firstCustom ≤ kind.code) ∧
    (∀ kind description, s.registry.describe? kind = some description →
      t.registry.describe? kind = some description) ∧
    ∀ decl d, ⟨.establish decl, .done (some d)⟩ ∈ s.calls →
      decl.establish t.registry = (.ok d, t.registry) ∧
      ∀ i rest, s.calls.length ≤ i → t.calls[i]? = some ⟨.establish decl, rest⟩ →
        rest.run t.registry = (.ok (some d), t.registry) ∧
        ∀ rest' r, rest.access t.registry = some (rest', r) → r = t.registry := by
  refine ⟨fun entry hentry => ?_, fun kind hk => ?_, ht.le, fun decl d hcall => ?_⟩
  · exact hs.le entry.1 entry.2 (Registry.describe?_shared entry hentry)
  · exact (hs.contains hk).imp_left Registry.exists_mem_of_contains
  · obtain ⟨j, hj⟩ := List.getElem?_of_mem hcall
    have hsettled : decl.establishing.Settled d s.registry ∧
        (Task.establish decl).procedure.Settled (some d) s.registry :=
      hs.ensures (Task.lasting_settled decl) (Task.settles_establish decl _) j _ (Nat.zero_le j) hj
        d rfl
    refine ⟨?_, fun i rest hi hrest => ?_⟩
    · rw [← decl.run_establishing]
      exact (hsettled.1.of_le ht.le).run_eq
    · have hrestSettled : rest.Settled (some d) t.registry :=
        ht.ensures (fun _ _ _ _ hx => hx) hsettled.2 i rest hi hrest
      refine ⟨hrestSettled.run_eq, fun rest' r haccess => ?_⟩
      simpa using (hrestSettled.access haccess).1

/-- A dialect with a word of its own. -/
def fetching : Declarations Empty :=
  { (Declarations.named "fetch" : Declarations Empty) with
    kinds := [(⟨1500⟩, "FETCH")]
    keywords := [("fetch", ⟨1500⟩)]
    statements :=
      [{ entry := ⟨1500⟩, kind := .select, clauses := [⟨⟨1500⟩, .list, .columns, false⟩] }] }

/-- The dialect has been established. -/
def fetched : Sharing Empty :=
  ⟨⟨Kind.shared ++ [(⟨1500⟩, "FETCH")]⟩, [⟨.establish fetching, .done (some fetching.dialect)⟩]⟩

/-- Somebody registers a kind while the dialect is being established again. -/
def fetchedAgain : Sharing Empty :=
  ⟨⟨fetched.registry.kinds ++ [(⟨1600⟩, "SINCE")]⟩,
    fetched.calls ++
      [⟨.register ⟨1600⟩ "SINCE", .done none⟩,
        ⟨.establish fetching, (Task.establish fetching).procedure⟩]⟩

theorem establish_again_fetching :
    Steps start fetched ∧ Steps fetched fetchedAgain ∧
      fetching.establish fetchedAgain.registry = (.ok fetching.dialect, fetchedAgain.registry) ∧
      (Task.establish fetching).procedure.run fetchedAgain.registry =
        (.ok (some fetching.dialect), fetchedAgain.registry) := by
  have hfirst : Steps start fetched := (Steps.refl _).establish rfl
  have hregister := ((Steps.refl fetched).tail (.call _ (.register ⟨1600⟩ "SINCE"))).run
    (i := 1) rfl rfl
  have hagain : Steps fetched fetchedAgain := hregister.tail (.call _ (.establish fetching))
  obtain ⟨-, -, -, hsettled⟩ := establish_again hfirst hagain
  obtain ⟨hestablish, hcalls⟩ := hsettled fetching fetching.dialect (.head _)
  exact ⟨hfirst, hagain, hestablish, (hcalls 2 _ (by decide) rfl).1⟩

end Sharing

end RowSieve

import RowSieve.Grammar.Dialect

/-!
# Registration of kinds

`Registry.register` adds at most one entry (`Registry.describe?_register`), so registering a list
of kinds only ever adds (`Registry.describe?_registerAll`), and it succeeds exactly if every entry
passes `Registry.check` on its own and no kind is listed under two descriptions
(`Registry.registerAll_eq_none_iff`).  The second condition is about the list alone: no check of its
entries against the registry finds it out.

`Declarations.establish` checks the entries one by one and registers them afterwards.  So a failure
changes the registry exactly if everything but the list itself has been found in order
(`Declarations.establish_changes_registry_iff`), and then it leaves the first of two descriptions of
a kind behind.
-/

namespace RowSieve

namespace Registry

/-- No kind is listed under two descriptions. -/
def Consistent (declared : List (Kind × String)) : Prop :=
  ∀ kind a b, (kind, a) ∈ declared → (kind, b) ∈ declared → a = b

theorem consistent_cons {kind : Kind} {description : String} {declared : List (Kind × String)} :
    Consistent ((kind, description) :: declared) ↔
      Consistent declared ∧ ∀ b, (kind, b) ∈ declared → b = description := by
  constructor
  · intro h
    refine ⟨fun k a b ha hb => h k a b (.tail _ ha) (.tail _ hb), fun b hb => ?_⟩
    exact h kind b description (.tail _ hb) (.head _)
  · rintro ⟨h, hk⟩ k a b ha hb
    rcases List.mem_cons.1 ha with ha | ha <;> rcases List.mem_cons.1 hb with hb | hb
    · cases ha; cases hb; rfl
    · cases ha; exact (hk b hb).symm
    · cases hb; exact hk a ha
    · exact h k a b ha hb

/-! ### One kind -/

theorem check_eq_ok_iff {r : Registry} {kind : Kind} {description : String} :
    r.check kind description = .ok () ↔
      kind.isReserved = false ∧ ∀ d, r.describe? kind = some d → d = description := by
  unfold check
  cases hr : kind.isReserved
  · cases hd : r.describe? kind with
    | none => simp
    | some d =>
      by_cases h : d = description
      · simp [h]
      · simp [h]
  · simp

theorem register_eq_ok_iff {r r' : Registry} {kind : Kind} {description : String} :
    r.register kind description = .ok r' ↔ r.check kind description = .ok () ∧
      r' = if r.contains kind then r else ⟨r.kinds ++ [(kind, description)]⟩ := by
  unfold register
  cases h : r.check kind description with
  | error e => simp [Except.map]
  | ok u =>
    simp only [Except.map, Except.ok.injEq, true_and]
    exact eq_comm

/-- The kind has a description after its registration; all others have the one they had. -/
theorem describe?_register {r r' : Registry} {kind : Kind} {description : String}
    (h : r.register kind description = .ok r') (k : Kind) :
    r'.describe? k = (r.describe? k).or (if k = kind then some description else none) := by
  obtain ⟨-, rfl⟩ := register_eq_ok_iff.1 h
  by_cases hc : r.contains kind
  · rw [if_pos hc]
    by_cases hk : k = kind
    · subst hk
      obtain ⟨d, hd⟩ := Option.isSome_iff_exists.1 hc
      rw [hd, Option.some_or]
    · rw [if_neg hk, Option.or_none]
  · rw [if_neg hc]
    simp only [describe?, List.lookup_append, List.lookup_cons, List.lookup_nil]
    by_cases hk : k = kind
    · simp [hk]
    · simp [hk, beq_eq_false_iff_ne.2 hk]

/-- After a registration, an entry passes the check if it did so before and does not contradict what
was registered. -/
theorem check_register {r r' : Registry} {kind : Kind} {description : String}
    (h : r.register kind description = .ok r') (k : Kind) (d : String) :
    r'.check k d = .ok () ↔ r.check k d = .ok () ∧ (k = kind → d = description) := by
  have hcheck := check_eq_ok_iff.1 (register_eq_ok_iff.1 h).1
  rw [check_eq_ok_iff, check_eq_ok_iff, describe?_register h k]
  by_cases hk : k = kind
  · subst hk
    cases hd : r.describe? k with
    | none => simp only [Option.none_or]; grind
    | some d' => grind
  · simp [hk]

/-! ### A list of kinds -/

/-- Entries are only ever added. -/
theorem describe?_registerAll {r : Registry} {declared : List (Kind × String)} {k : Kind}
    {d : String} (h : r.describe? k = some d) :
    (r.registerAll declared).2.describe? k = some d := by
  induction declared generalizing r with
  | nil => exact h
  | cons entry declared ih =>
    obtain ⟨kind, description⟩ := entry
    rw [registerAll]
    cases hr : r.register kind description with
    | error e => exact h
    | ok r' => exact ih (by simp [describe?_register hr, h])

/-- Registering a list succeeds exactly if each entry could be registered on its own and no two of
them contradict each other. -/
theorem registerAll_eq_none_iff {r : Registry} {declared : List (Kind × String)} :
    (r.registerAll declared).1 = none ↔
      (∀ entry ∈ declared, r.check entry.1 entry.2 = .ok ()) ∧ Consistent declared := by
  induction declared generalizing r with
  | nil => simp [registerAll, Consistent]
  | cons entry declared ih =>
    obtain ⟨kind, description⟩ := entry
    rw [registerAll, consistent_cons]
    cases hr : r.register kind description with
    | error e =>
      have : r.check kind description ≠ .ok () := fun hc => by
        simp [register, hc, Except.map] at hr
      simp [this]
    | ok r' =>
      have hc := (register_eq_ok_iff.1 hr).1
      simp only [ih, check_register hr, List.mem_cons, forall_eq_or_imp, hc, true_and]
      constructor
      · rintro ⟨hall, hcons⟩
        exact ⟨fun e he => (hall e he).1, hcons, fun b hb => (hall _ hb).2 rfl⟩
      · rintro ⟨hall, hcons, hk⟩
        refine ⟨fun e he => ⟨hall e he, fun hek => hk e.2 ?_⟩, hcons⟩
        rw [← hek]
        exact he

/-- Entries that pass the check are registered up to the first contradiction among them, so a
failure shows in the registry. -/
theorem exists_describe?_ne_of_registerAll {r : Registry} {declared : List (Kind × String)}
    (hcheck : ∀ entry ∈ declared, r.check entry.1 entry.2 = .ok ())
    (hfail : (r.registerAll declared).1 ≠ none) :
    ∃ k, (r.registerAll declared).2.describe? k ≠ r.describe? k := by
  induction declared with
  | nil => exact absurd rfl hfail
  | cons entry declared ih =>
    obtain ⟨kind, description⟩ := entry
    have hc : r.check kind description = .ok () := hcheck _ (.head _)
    rw [registerAll] at hfail ⊢
    by_cases hk : r.contains kind
    · -- The kind is known already, so its registration changes nothing.
      have hr : r.register kind description = .ok r := register_eq_ok_iff.2 ⟨hc, by simp [hk]⟩
      rw [hr] at hfail ⊢
      exact ih (fun e he => hcheck e (.tail _ he)) hfail
    · have hr : r.register kind description = .ok ⟨r.kinds ++ [(kind, description)]⟩ :=
        register_eq_ok_iff.2 ⟨hc, by simp [hk]⟩
      rw [hr] at hfail ⊢
      have hnone : r.describe? kind = none := by simpa [contains] using hk
      have hsome : (⟨r.kinds ++ [(kind, description)]⟩ : Registry).describe? kind =
          some description := by
        simp [describe?_register hr, hnone]
      exact ⟨kind, by rw [describe?_registerAll hsome, hnone]; simp⟩

end Registry

namespace Declarations

variable {σ : Type}

theorem checkKinds_eq_ok_iff {registry : Registry} {declared : List (Kind × String)} :
    checkKinds registry declared = .ok () ↔
      ∀ entry ∈ declared, registry.check entry.1 entry.2 = .ok () := by
  induction declared with
  | nil => simp [checkKinds]
  | cons entry declared ih =>
    obtain ⟨kind, description⟩ := entry
    rw [checkKinds]
    cases h : registry.check kind description with
    | error e => simp [h, bind, Except.bind]
    | ok u => simp [h, bind, Except.bind, ih]

theorem checkKinds_of_validate {decl : Declarations σ} {registry : Registry} {d : Dialect σ}
    (h : decl.validate registry = .ok d) :
    ∀ entry ∈ decl.kinds, registry.check entry.1 entry.2 = .ok () := by
  apply checkKinds_eq_ok_iff.1
  unfold validate at h
  cases hk : checkKinds registry decl.kinds with
  | error e => simp [hk, bind, Except.bind] at h
  | ok u => rfl

/-- What `establish` answers: nothing is registered if a check fails, and all kinds up to the first
contradiction among them if none does. -/
theorem establish_eq (decl : Declarations σ) (registry : Registry) :
    (∃ e, decl.validate registry = .error e ∧ decl.establish registry = (.error e, registry)) ∨
      ∃ d, decl.validate registry = .ok d ∧
        (decl.establish registry).2 = (registry.registerAll decl.kinds).2 ∧
        ((decl.establish registry).1 = .ok d ↔ (registry.registerAll decl.kinds).1 = none) ∧
        ∀ e, (decl.establish registry).1 = .error e ↔
          (registry.registerAll decl.kinds).1 = some e := by
  cases h : decl.validate registry with
  | error e => exact .inl ⟨e, rfl, by simp [establish, h]⟩
  | ok d =>
    refine .inr ⟨d, rfl, by simp [establish, h], ?_⟩
    cases hr : (registry.registerAll decl.kinds).1 with
    | none => simp [establish, h, hr]
    | some e => simp [establish, h, hr]

/-- **A failure changes what the registry says exactly if every check has passed and a kind is
declared under two descriptions.** -/
theorem establish_changes_registry_iff (decl : Declarations σ) (registry : Registry) :
    ((∃ e, (decl.establish registry).1 = .error e) ∧
        ∃ kind, (decl.establish registry).2.describe? kind ≠ registry.describe? kind) ↔
      (∃ d, decl.validate registry = .ok d) ∧
        ∃ kind a b, (kind, a) ∈ decl.kinds ∧ (kind, b) ∈ decl.kinds ∧ a ≠ b := by
  rcases decl.establish_eq registry with ⟨e, hv, he⟩ | ⟨d, hv, hregistry, -, herror⟩
  · simp [hv, he]
  · have hcheck := checkKinds_of_validate hv
    have hfail : (∃ e, (decl.establish registry).1 = .error e) ↔
        (registry.registerAll decl.kinds).1 ≠ none := by
      simp only [herror, Option.ne_none_iff_exists']
    have hconsistent : (registry.registerAll decl.kinds).1 = none ↔
        Registry.Consistent decl.kinds :=
      Registry.registerAll_eq_none_iff.trans (and_iff_right hcheck)
    rw [hfail, hregistry, hv]
    constructor
    · rintro ⟨hne, -⟩
      rw [Ne, hconsistent] at hne
      simp only [Registry.Consistent, Classical.not_forall] at hne
      obtain ⟨kind, a, b, ha, hb, hab⟩ := hne
      exact ⟨⟨d, rfl⟩, kind, a, b, ha, hb, hab⟩
    · rintro ⟨-, kind, a, b, ha, hb, hab⟩
      have hne : (registry.registerAll decl.kinds).1 ≠ none :=
        fun h => hab (hconsistent.1 h kind a b ha hb)
      exact ⟨hne, Registry.exists_describe?_ne_of_registerAll hcheck hne⟩

/-- Declarations of one kind under two descriptions. -/
def ambiguous : Declarations Empty := { named "bad" with kinds := [(⟨1500⟩, "A"), (⟨1500⟩, "B")] }

/-- The second description is refused, when the first has been registered. -/
theorem establish_ambiguous_registers :
    (ambiguous.establish .shared).1 = .error (.kindTaken ⟨1500⟩ "A" "B") ∧
      Registry.shared.describe? ⟨1500⟩ = none ∧
      (ambiguous.establish .shared).2.describe? ⟨1500⟩ = some "A" := by
  refine ⟨rfl, ?_, ?_⟩
  · decide
  · decide

end Declarations

end RowSieve

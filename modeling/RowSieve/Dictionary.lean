/-!
# Dictionaries

A `Dictionary` holds values under names, each name at most once.  Its entries are kept in the
order of the names, which is the order of their characters' code points, so two dictionaries
that answer every `get?` alike are equal (`Dictionary.ext_get?`), whatever was inserted first.

The main statement on `insert` is `Dictionary.get?_insert`: the name inserted last wins and all
other names keep what they had.
-/

namespace RowSieve

/-- Values under names, in the order of the names. -/
structure Dictionary (α : Type) where
  /-- The names with their values. -/
  entries : List (String × α)
  /-- The names increase. -/
  sorted : entries.Pairwise (fun a b => a.1 < b.1)

namespace Dictionary

variable {α : Type}

/-- No name has a value. -/
def empty : Dictionary α := ⟨[], .nil⟩

instance : Inhabited (Dictionary α) := ⟨empty⟩

/-- The entries with `value` under `name`, in the place that the order gives it. -/
def insertEntry (name : String) (value : α) : List (String × α) → List (String × α)
  | [] => [(name, value)]
  | (key, old) :: rest =>
    if name < key then (name, value) :: (key, old) :: rest
    else if name = key then (name, value) :: rest
    else (key, old) :: insertEntry name value rest

theorem mem_insertEntry {name : String} {value : α} {e : String × α} :
    ∀ {l : List (String × α)}, e ∈ insertEntry name value l → e = (name, value) ∨ e ∈ l
  | [], h => by simpa [insertEntry] using h
  | (key, old) :: rest, h => by
    have := @mem_insertEntry name value e rest
    grind [insertEntry]

theorem lt_of_not_lt_of_ne {a b : String} (h : ¬ a < b) (hne : a ≠ b) : b < a :=
  Decidable.byContradiction fun h' =>
    hne (String.le_antisymm (String.not_lt.1 h') (String.not_lt.1 h))

theorem sorted_insertEntry {name : String} {value : α} {l : List (String × α)}
    (h : l.Pairwise (fun a b => a.1 < b.1)) :
    (insertEntry name value l).Pairwise (fun a b => a.1 < b.1) := by
  induction l with
  | nil => simp [insertEntry]
  | cons e rest ih =>
    obtain ⟨key, old⟩ := e
    rw [List.pairwise_cons] at h
    rw [insertEntry]
    split
    next hlt =>
      refine List.pairwise_cons.2 ⟨fun a ha => ?_, List.pairwise_cons.2 h⟩
      rcases List.mem_cons.1 ha with rfl | ha
      · exact hlt
      · exact String.lt_trans hlt (h.1 a ha)
    next hlt =>
      split
      next heq => exact List.pairwise_cons.2 ⟨fun a ha => heq ▸ h.1 a ha, h.2⟩
      next hne =>
        refine List.pairwise_cons.2 ⟨fun a ha => ?_, ih h.2⟩
        rcases mem_insertEntry ha with rfl | ha
        · exact lt_of_not_lt_of_ne hlt hne
        · exact h.1 a ha

/-- Puts `value` under `name`, in place of what was there. -/
def insert (d : Dictionary α) (name : String) (value : α) : Dictionary α :=
  ⟨insertEntry name value d.entries, sorted_insertEntry d.sorted⟩

/-- The value under `name`, if there is one. -/
def get? (d : Dictionary α) (name : String) : Option α := d.entries.lookup name

/-- `name` has a value. -/
def contains (d : Dictionary α) (name : String) : Bool := (d.get? name).isSome

/-- The names that have a value, in order. -/
def names (d : Dictionary α) : List String := d.entries.map (·.1)

/-- How many names have a value. -/
def size (d : Dictionary α) : Nat := d.entries.length

/-- No name has a value. -/
def isEmpty (d : Dictionary α) : Bool := d.entries.isEmpty

/-- Inserts the pairs one after the other, so that the last pair of a name wins. -/
def ofList (pairs : List (String × α)) : Dictionary α :=
  pairs.foldl (fun d p => d.insert p.1 p.2) empty

/-! ### What a look-up sees -/

theorem lookup_insertEntry (name key : String) (value : α) (l : List (String × α)) :
    (insertEntry name value l).lookup key = if key = name then some value else l.lookup key := by
  induction l with
  | nil => simp only [insertEntry, List.lookup_cons, List.lookup_nil]; grind
  | cons e rest ih =>
    obtain ⟨k, old⟩ := e
    simp only [insertEntry]
    split
    · simp only [List.lookup_cons]; grind
    · split <;> simp only [List.lookup_cons] at * <;> grind

@[simp] theorem get?_empty (name : String) : (empty : Dictionary α).get? name = none := rfl

theorem get?_insert (d : Dictionary α) (name key : String) (value : α) :
    (d.insert name value).get? key = if key = name then some value else d.get? key :=
  lookup_insertEntry name key value d.entries

@[simp] theorem get?_insert_self (d : Dictionary α) (name : String) (value : α) :
    (d.insert name value).get? name = some value := by simp [get?_insert]

theorem get?_insert_of_ne (d : Dictionary α) {name key : String} (value : α) (h : key ≠ name) :
    (d.insert name value).get? key = d.get? key := by simp [get?_insert, h]

/-- After insertions, a name has the value of the last one that is made under it. -/
theorem get?_foldl_insert {β : Type} (key : β → String) (value : β → α) (l : List β)
    (d : Dictionary α) (name : String) :
    (l.foldl (fun d x => d.insert (key x) (value x)) d).get? name =
      (((l.filter fun x => key x = name).getLast?).map value).or (d.get? name) := by
  induction l generalizing d with
  | nil => simp
  | cons x l ih =>
    rw [List.foldl_cons, ih, get?_insert]
    by_cases h : key x = name
    · rw [List.filter_cons_of_pos (by simpa using h), if_pos h.symm, List.getLast?_cons]
      cases (l.filter fun x => key x = name).getLast? <;> simp
    · rw [List.filter_cons_of_neg (by simpa using h), if_neg fun hn => h hn.symm]

theorem lookup_eq_some_iff_mem {l : List (String × α)}
    (h : l.Pairwise (fun a b => a.1 < b.1)) {name : String} {value : α} :
    l.lookup name = some value ↔ (name, value) ∈ l := by
  induction l with
  | nil => simp
  | cons e rest ih =>
    obtain ⟨key, old⟩ := e
    rw [List.pairwise_cons] at h
    by_cases hk : name = key
    · subst hk
      have : ∀ v, (name, v) ∉ rest := fun v hv => String.lt_irrefl _ (h.1 (name, v) hv)
      simp only [List.lookup_cons, beq_self_eq_true, List.mem_cons, Prod.mk.injEq, true_and]
      grind
    · simp [List.lookup_cons, hk, ih h.2, beq_eq_false_iff_ne.2 hk]

theorem get?_eq_some_iff_mem {d : Dictionary α} {name : String} {value : α} :
    d.get? name = some value ↔ (name, value) ∈ d.entries := lookup_eq_some_iff_mem d.sorted

/-- A name has one entry at most. -/
theorem filter_eq_of_sorted {l : List (String × α)} (h : l.Pairwise (fun a b => a.1 < b.1))
    (name : String) :
    l.filter (fun e => e.1 = name) = ((l.lookup name).map fun value => (name, value)).toList := by
  induction l with
  | nil => rfl
  | cons e rest ih =>
    obtain ⟨key, value⟩ := e
    rw [List.pairwise_cons] at h
    by_cases hk : key = name
    · subst hk
      have hrest : rest.filter (fun e => e.1 = key) = [] := by
        rw [List.filter_eq_nil_iff]
        intro e he heq
        have hlt := h.1 e he
        rw [of_decide_eq_true heq] at hlt
        exact String.lt_irrefl _ hlt
      simp [hrest]
    · have hbeq : (name == key) = false := beq_eq_false_iff_ne.2 (Ne.symm hk)
      simp [List.lookup_cons, hk, hbeq, ih h.2]

/-- Inserting something for each entry makes a dictionary with the same names. -/
theorem get?_foldl_entries {β : Type} (d : Dictionary α) (f : String → α → β) (name : String) :
    (d.entries.foldl (fun e p => e.insert p.1 (f p.1 p.2)) empty).get? name =
      (d.get? name).map (f name) := by
  rw [get?_foldl_insert (fun p : String × α => p.1) (fun p => f p.1 p.2),
    get?_empty, Option.or_none, filter_eq_of_sorted d.sorted, get?]
  cases d.entries.lookup name <;> simp

theorem mem_names_iff {d : Dictionary α} {name : String} : name ∈ d.names ↔ d.get? name ≠ none := by
  rw [Option.ne_none_iff_exists', names, List.mem_map]
  constructor
  · rintro ⟨⟨name, value⟩, hmem, rfl⟩
    exact ⟨value, get?_eq_some_iff_mem.2 hmem⟩
  · rintro ⟨value, h⟩
    exact ⟨(name, value), get?_eq_some_iff_mem.1 h, rfl⟩

theorem nodup_names (d : Dictionary α) : d.names.Nodup := by
  rw [names, List.nodup_iff_pairwise_ne, List.pairwise_map]
  refine d.sorted.imp fun hlt heq => ?_
  rw [heq] at hlt
  exact String.lt_irrefl _ hlt

theorem entries_ext : ∀ {l m : List (String × α)}, l.Pairwise (fun a b => a.1 < b.1) →
    m.Pairwise (fun a b => a.1 < b.1) → (∀ e, e ∈ l ↔ e ∈ m) → l = m
  | [], [], _, _, _ => rfl
  | [], e :: _, _, _, h => absurd ((h e).2 (by simp)) (by simp)
  | e :: _, [], _, _, h => absurd ((h e).1 (by simp)) (by simp)
  | e :: l, f :: m, hl, hm, h => by
    rw [List.pairwise_cons] at hl hm
    have hef : e = f := by
      have h1 := (h e).1 (by simp)
      have h2 := (h f).2 (by simp)
      rcases List.mem_cons.1 h1 with h1 | h1
      · exact h1
      · rcases List.mem_cons.1 h2 with h2 | h2
        · exact h2.symm
        · exact absurd (String.lt_trans (hl.1 f h2) (hm.1 e h1)) (String.lt_irrefl _)
    subst hef
    congr 1
    refine entries_ext hl.2 hm.2 fun x => ?_
    have hx := h x
    simp only [List.mem_cons] at hx
    have hnl : x ∈ l → x ≠ e := fun hm he => String.lt_irrefl _ (he ▸ hl.1 x hm)
    have hnm : x ∈ m → x ≠ e := fun hm' he => String.lt_irrefl _ (he ▸ hm.1 x hm')
    grind

theorem ext_get? {d e : Dictionary α} (h : ∀ name, d.get? name = e.get? name) : d = e := by
  obtain ⟨l, hl⟩ := d
  obtain ⟨m, hm⟩ := e
  have : l = m := entries_ext hl hm fun ⟨name, value⟩ => by
    rw [← lookup_eq_some_iff_mem hl, ← lookup_eq_some_iff_mem hm]
    exact Iff.of_eq (congrArg (· = some value) (h name))
  subst this
  rfl

/-! ### Dictionaries from dictionaries -/

/-- What `f` makes of each value, under the same names. -/
def map {β : Type} (f : α → β) (d : Dictionary α) : Dictionary β :=
  ⟨d.entries.map fun e => (e.1, f e.2), List.pairwise_map.2 d.sorted⟩

theorem get?_map {β : Type} (f : α → β) (d : Dictionary α) (name : String) :
    (d.map f).get? name = (d.get? name).map f := by
  obtain ⟨l, h⟩ := d
  simp only [get?, map]
  clear h
  induction l with
  | nil => rfl
  | cons e l ih =>
    rw [List.map_cons, List.lookup_cons, List.lookup_cons, ih]
    cases name == e.1 <;> rfl

/-- The values under names that have a property. -/
def filterNames (p : String → Bool) (d : Dictionary α) : Dictionary α :=
  ⟨d.entries.filter fun e => p e.1, d.sorted.filter _⟩

theorem get?_filterNames (p : String → Bool) (d : Dictionary α) (name : String) :
    (d.filterNames p).get? name = if p name then d.get? name else none := by
  refine Option.ext fun value => ?_
  rw [get?_eq_some_iff_mem, filterNames, List.mem_filter, ← get?_eq_some_iff_mem]
  cases p name <;> simp

end Dictionary

end RowSieve

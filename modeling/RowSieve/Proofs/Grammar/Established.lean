import RowSieve.Proofs.Grammar.Registration

/-!
# Established dialects

The checks of `Declarations.establish` decide whether there is a dialect, not which one:
`Declarations.dialect` reads it off the declarations, and every dialect that is established is that
one, whatever registry it was checked against (`Declarations.eq_dialect_of_establish`).  The stock
dialect is `sql.dialect`.
-/

namespace RowSieve

theorem Dictionary.mem_of_get?_ofList {α : Type} {pairs : List (String × α)} {name : String}
    {value : α} (h : (ofList pairs).get? name = some value) : (name, value) ∈ pairs := by
  rw [ofList, get?_foldl_insert, get?_empty, Option.or_none, Option.map_eq_some_iff] at h
  obtain ⟨p, hp, rfl⟩ := h
  have hmem := List.mem_filter.1 (List.mem_of_getLast? hp)
  obtain rfl : p.1 = name := by simpa using hmem.2
  exact hmem.1

namespace Dialect

variable {σ : Type} {d : Dialect σ} {word : String} {kind : Kind}

/-- A word is a keyword of a kind: the table of keywords has it, or has no such word but has it in
lower case. -/
def IsKeyword (d : Dialect σ) (word : String) (kind : Kind) : Prop :=
  d.keywords.get? word = some kind ∨
    d.keywords.get? word = none ∧ d.keywords.get? (Text.lowercase word) = some kind

theorem keyword?_eq_some_iff : d.keyword? word = some kind ↔ d.IsKeyword word kind :=
  Option.or_eq_some_iff

theorem keyword?_eq_none_iff : d.keyword? word = none ↔ ∀ kind, ¬ d.IsKeyword word kind := by
  simp only [← keyword?_eq_some_iff, Option.eq_none_iff_forall_ne_some]

end Dialect

namespace Declarations

variable {σ : Type} {decl : Declarations σ} {registry : Registry}

/-- The dialect that declarations describe if there is no conflict among them. -/
def dialect (decl : Declarations σ) : Dialect σ :=
  ⟨decl.name, decl.statements, .ofList decl.spellings, decl.strict, decl.recording⟩

theorem eq_foldl_insert_of_addKeywords {spellings : List (String × Kind)}
    {table result : Dictionary Kind}
    (h : decl.addKeywords registry table spellings = .ok result) :
    result = spellings.foldl (fun t p => t.insert p.1 p.2) table := by
  induction spellings generalizing table with
  | nil =>
    cases h
    rfl
  | cons p spellings ih =>
    obtain ⟨word, kind⟩ := p
    rw [addKeywords] at h
    split at h
    · cases h
    · rw [List.foldl_cons]
      split at h
      · exact ih h
      next first hfirst =>
        split at h
        next heq =>
          -- A spelling that is known already makes no difference.
          have hsame : table.insert word kind = table := Dictionary.ext_get? fun name => by
            rw [Dictionary.get?_insert]
            split
            next hname => rw [hname, hfirst, heq]
            next => rfl
          rw [hsame]
          exact ih h
        · cases h

theorem eq_dialect_of_validate {d : Dialect σ} (h : decl.validate registry = .ok d) :
    d = decl.dialect := by
  unfold validate at h
  cases hk : checkKinds registry decl.kinds with
  | error e => simp [hk, bind, Except.bind] at h
  | ok u =>
    cases ht : decl.addKeywords registry .empty decl.spellings with
    | error e => simp [hk, ht, bind, Except.bind] at h
    | ok table =>
      cases hs : decl.checkStatements registry table [] decl.statements with
      | error e => simp [hk, ht, hs, bind, Except.bind] at h
      | ok u =>
        simp only [hk, ht, hs, bind, Except.bind, pure, Except.pure, Except.ok.injEq] at h
        rw [← h, eq_foldl_insert_of_addKeywords ht]
        rfl

/-- The registry has no influence on the dialect that is established. -/
theorem eq_dialect_of_establish {d : Dialect σ} (h : (decl.establish registry).1 = .ok d) :
    d = decl.dialect := by
  rcases decl.establish_eq registry with ⟨e, -, he⟩ | ⟨d', hv, -, hok, herror⟩
  · simp [he] at h
  · cases hr : (registry.registerAll decl.kinds).1 with
    | none =>
      have h' := hok.2 hr
      rw [h] at h'
      cases h'
      exact eq_dialect_of_validate hv
    | some e => simp [(herror e).2 hr] at h

/-- Only declared spellings and the shared ones have kinds. -/
theorem exists_spelling_of_keyword? {word : String} {kind : Kind}
    (h : decl.dialect.keyword? word = some kind) : ∃ s, (s, kind) ∈ decl.spellings := by
  rcases Dialect.keyword?_eq_some_iff.1 h with h | ⟨-, h⟩
  · exact ⟨_, Dictionary.mem_of_get?_ofList h⟩
  · exact ⟨_, Dictionary.mem_of_get?_ofList h⟩

end Declarations

end RowSieve

import Mathlib.Tactic.Tauto
import RowSieve.Proofs.Grammar.Established
import RowSieve.Proofs.Grammar.Sharing

/-!
# Which declarations establish a dialect

`Declarations.Sound` says, without any order of checks, what has to be in order: the declared kinds
with the registry and with each other, the spellings with each other, and every statement with the
kinds and the spellings.  `Declarations.establish` checks one thing after the other and registers at
the end, but it succeeds exactly on sound declarations (`Declarations.establishes_iff_sound`), and
the dialect then holds what was declared and nothing else (`Declarations.Describes`).

Each of the checks gets one equivalence, by induction on the list that it walks along.
-/

namespace RowSieve

/-- Kinds that are registered one after the other are all in the registry then. -/
theorem Registry.describe?_of_registerAll {r : Registry} {declared : List (Kind × String)}
    (h : (r.registerAll declared).1 = none) :
    ∀ entry ∈ declared, (r.registerAll declared).2.describe? entry.1 = some entry.2 := by
  induction declared generalizing r with
  | nil => simp
  | cons entry declared ih =>
    obtain ⟨kind, description⟩ := entry
    rw [registerAll] at h ⊢
    cases hr : r.register kind description with
    | error e =>
      rw [hr] at h
      cases h
    | ok r' =>
      rw [hr] at h
      exact List.forall_mem_cons.2 ⟨describe?_registerAll (lists_of_register hr).2, ih h⟩

namespace Declarations

variable {σ : Type} {decl : Declarations σ} {registry : Registry} {table : Dictionary Kind}

/-- No word is spelled for two kinds. -/
def Unambiguous (spellings : List (String × Kind)) : Prop :=
  ∀ word a b, (word, a) ∈ spellings → (word, b) ∈ spellings → a = b

/-- A kind is registered or declared. -/
def Known (decl : Declarations σ) (registry : Registry) (kind : Kind) : Prop :=
  (∃ description, registry.describe? kind = some description) ∨
    ∃ description, (kind, description) ∈ decl.kinds

/-- A clause has a known keyword and a word that spells it. -/
structure Opens (decl : Declarations σ) (registry : Registry) (clause : Clause σ) : Prop where
  /-- Its keyword is registered or declared. -/
  known : decl.Known registry clause.keyword
  /-- A word begins it. -/
  spelled : ∃ word, (word, clause.keyword) ∈ decl.spellings

/-- What has to be in order with declarations. -/
structure Sound (decl : Declarations σ) (registry : Registry) : Prop where
  /-- The numbers of the declared kinds are free for dialects. -/
  free : ∀ entry ∈ decl.kinds, Kind.firstCustom ≤ entry.1.code
  /-- No declared kind is registered under another description. -/
  registered : ∀ entry ∈ decl.kinds, ∀ description,
    registry.describe? entry.1 = some description → description = entry.2
  /-- No kind is declared under two descriptions. -/
  declared : ∀ kind a b, (kind, a) ∈ decl.kinds → (kind, b) ∈ decl.kinds → a = b
  /-- The kinds that words are spelled for are registered or declared. -/
  known : ∀ spelling ∈ decl.spellings, decl.Known registry spelling.2
  /-- No word is spelled for two kinds, not even one of the shared words. -/
  spelled : Unambiguous decl.spellings
  /-- Every statement has a clause, and the first one opens the statement. -/
  entry : ∀ statement ∈ decl.statements, ∃ first rest,
    statement.clauses = first :: rest ∧ first.keyword = statement.entry
  /-- Every clause can be begun. -/
  clauses : ∀ statement ∈ decl.statements, ∀ clause ∈ statement.clauses,
    decl.Opens registry clause
  /-- No two statements open alike. -/
  entries : decl.statements.Pairwise fun s t => s.entry ≠ t.entry

/-- The dialect holds what was declared, and nothing else. -/
structure Describes (decl : Declarations σ) (d : Dialect σ) : Prop where
  /-- Its keywords are the shared words and those that are declared, in lower case. -/
  keywords : ∀ word kind, d.keywords.get? word = some kind ↔ (word, kind) ∈ decl.spellings
  /-- Its clauses are those that are declared. -/
  clauses : ∀ kind, d.opensClause kind = true ↔
    ∃ statement ∈ decl.statements, ∃ clause ∈ statement.clauses, clause.keyword = kind
  /-- The statement of a keyword is the only one that opens with it. -/
  statements : ∀ entry statement, d.statement? entry = some statement ↔
    statement ∈ decl.statements ∧ statement.entry = entry

theorem knows_eq_true_iff {kind : Kind} :
    decl.knows registry kind = true ↔ decl.Known registry kind := by
  simp [knows, Known, Registry.contains, Option.isSome_iff_exists]

/-! ### Spellings -/

theorem unambiguous_cons {word : String} {kind : Kind} {spellings : List (String × Kind)} :
    Unambiguous ((word, kind) :: spellings) ↔
      (∀ b, (word, b) ∈ spellings → kind = b) ∧ Unambiguous spellings := by
  constructor
  · exact fun h => ⟨fun b hb => h word kind b (.head _) (.tail _ hb),
      fun w a b ha hb => h w a b (.tail _ ha) (.tail _ hb)⟩
  · rintro ⟨hword, h⟩ w a b ha hb
    rcases List.mem_cons.1 ha with ha | ha <;> rcases List.mem_cons.1 hb with hb | hb
    · cases ha; cases hb; rfl
    · cases ha; exact hword b hb
    · cases hb; exact (hword a ha).symm
    · exact h w a b ha hb

/-- The table has no other kind for the word. -/
def Agrees (table : Dictionary Kind) (spelling : String × Kind) : Prop :=
  ∀ first, table.get? spelling.1 = some first → first = spelling.2

theorem forall_agrees_insert {word : String} {kind : Kind} (h : table.get? word = none)
    {spellings : List (String × Kind)} :
    (∀ spelling ∈ spellings, Agrees (table.insert word kind) spelling) ↔
      (∀ b, (word, b) ∈ spellings → kind = b) ∧ ∀ spelling ∈ spellings, Agrees table spelling := by
  constructor
  · intro hall
    refine ⟨fun b hb => hall _ hb kind (by simp), fun spelling hs first hfirst => ?_⟩
    refine hall spelling hs first ?_
    rw [Dictionary.get?_insert_of_ne, hfirst]
    rintro rfl
    rw [h] at hfirst
    cases hfirst
  · rintro ⟨hword, hall⟩ ⟨key, b⟩ hs first hfirst
    rw [Dictionary.get?_insert] at hfirst
    split at hfirst
    next heq =>
      cases hfirst
      cases heq
      exact hword b hs
    next => exact hall _ hs first hfirst

/-- Spellings are added to a table exactly if their kinds are known and they contradict neither the
table nor each other. -/
theorem exists_addKeywords_iff {spellings : List (String × Kind)} :
    (∃ result, decl.addKeywords registry table spellings = .ok result) ↔
      (∀ spelling ∈ spellings, decl.knows registry spelling.2 = true) ∧
        (∀ spelling ∈ spellings, Agrees table spelling) ∧ Unambiguous spellings := by
  induction spellings generalizing table with
  | nil => simp [addKeywords, Unambiguous]
  | cons spelling spellings ih =>
    obtain ⟨word, kind⟩ := spelling
    rw [addKeywords, unambiguous_cons, List.forall_mem_cons, List.forall_mem_cons]
    cases hknown : decl.knows registry kind with
    | false => simp
    | true =>
      simp only [true_and, Bool.not_true, Bool.false_eq_true, if_false]
      cases hfirst : table.get? word with
      | none =>
        have hagrees : Agrees table (word, kind) := fun first h => by
          rw [hfirst] at h
          cases h
        dsimp only
        rw [ih, forall_agrees_insert hfirst]
        tauto
      | some first =>
        dsimp only
        split
        next heq =>
          subst heq
          have hagrees : Agrees table (word, first) := fun _ h =>
            Option.some.inj (h.symm.trans hfirst)
          have hword (h : ∀ spelling ∈ spellings, Agrees table spelling) :
              ∀ b, (word, b) ∈ spellings → first = b := fun b hb => h _ hb first hfirst
          rw [ih]
          tauto
        next hne =>
          refine iff_of_false ?_ ?_
          · rintro ⟨_, h⟩
            cases h
          · rintro ⟨-, ⟨hagrees, -⟩, -⟩
            exact hne (hagrees first hfirst)

theorem get?_ofList_iff {spellings : List (String × Kind)} (h : Unambiguous spellings)
    {word : String} {kind : Kind} :
    (Dictionary.ofList spellings).get? word = some kind ↔ (word, kind) ∈ spellings := by
  refine ⟨Dictionary.mem_of_get?_ofList, fun hmem => ?_⟩
  cases hget : (Dictionary.ofList spellings).get? word with
  | some first => rw [h word first kind (Dictionary.mem_of_get?_ofList hget) hmem]
  | none =>
    rw [Dictionary.ofList, Dictionary.get?_foldl_insert (fun p : String × Kind => p.1) (·.2)]
      at hget
    simp only [Dictionary.get?_empty, Option.or_none, Option.map_eq_none_iff,
      List.getLast?_eq_none_iff, List.filter_eq_nil_iff] at hget
    exact absurd (decide_eq_true rfl) (hget _ hmem)

/-! ### Statements -/

theorem checkClauses_eq_ok_iff {clauses : List (Clause σ)} :
    decl.checkClauses registry table clauses = .ok () ↔
      ∀ clause ∈ clauses, decl.knows registry clause.keyword = true ∧
        ∃ word, table.get? word = some clause.keyword := by
  induction clauses with
  | nil => simp [checkClauses]
  | cons clause clauses ih =>
    have hspelled : (table.entries.any fun e => e.2 = clause.keyword) = true ↔
        ∃ word, table.get? word = some clause.keyword := by
      simp only [Dictionary.get?_eq_some_iff_mem, List.any_eq_true, decide_eq_true_eq]
      constructor
      · rintro ⟨e, he, hk⟩
        exact ⟨e.1, hk ▸ he⟩
      · rintro ⟨word, h⟩
        exact ⟨_, h, rfl⟩
    rw [checkClauses, List.forall_mem_cons, ← ih, ← hspelled]
    cases decl.knows registry clause.keyword with
    | false => simp
    | true =>
      cases table.entries.any fun e => e.2 = clause.keyword with
      | false => simp
      | true => simp

theorem checkStatements_eq_ok_iff {seen : List Kind} {statements : List (Statement σ)} :
    decl.checkStatements registry table seen statements = .ok () ↔
      (∀ statement ∈ statements, ∃ first rest,
        statement.clauses = first :: rest ∧ first.keyword = statement.entry) ∧
      (∀ statement ∈ statements, decl.checkClauses registry table statement.clauses = .ok ()) ∧
      (∀ statement ∈ statements, statement.entry ∉ seen) ∧
      statements.Pairwise fun s t => s.entry ≠ t.entry := by
  induction statements generalizing seen with
  | nil => simp [checkStatements]
  | cons statement statements ih =>
    simp only [checkStatements, List.forall_mem_cons, List.pairwise_cons]
    cases hclauses : statement.clauses with
    | nil => simp
    | cons first rest =>
      by_cases hentry : first.keyword = statement.entry
      · cases hcheck : decl.checkClauses registry table (first :: rest) with
        | error e => simp [hentry, bind, Except.bind]
        | ok u =>
          by_cases hseen : statement.entry ∈ seen
          · simp [hentry, hseen, bind, Except.bind]
          · simp only [ne_eq, hentry, not_true_eq_false, if_false, bind, Except.bind,
              List.contains_eq_mem, hseen, decide_false, Bool.false_eq_true, ih, List.mem_cons]
            grind
      · simp [hentry]

/-! ### All checks -/

theorem exists_validate_iff : (∃ d, decl.validate registry = .ok d) ↔
    checkKinds registry decl.kinds = .ok () ∧
      (∃ table, decl.addKeywords registry .empty decl.spellings = .ok table) ∧
      decl.checkStatements registry (.ofList decl.spellings) [] decl.statements = .ok () := by
  unfold validate
  cases hk : checkKinds registry decl.kinds with
  | error e => simp [bind, Except.bind]
  | ok u =>
    cases ht : decl.addKeywords registry .empty decl.spellings with
    | error e => simp [bind, Except.bind]
    | ok table =>
      obtain rfl : table = .ofList decl.spellings := eq_foldl_insert_of_addKeywords ht
      cases hs : decl.checkStatements registry (.ofList decl.spellings) [] decl.statements with
      | error e => simp [hs, bind, Except.bind]
      | ok u => simp [hs, bind, Except.bind, pure, Except.pure]

/-- Nothing but two declared descriptions of a kind makes the registration fail after the checks. -/
theorem exists_establish_iff : (∃ d, (decl.establish registry).1 = .ok d) ↔
    (∃ d, decl.validate registry = .ok d) ∧ Registry.Consistent decl.kinds := by
  rcases decl.establish_eq registry with ⟨e, hv, he⟩ | ⟨d, hv, -, hok, herror⟩
  · simp [hv, he]
  · have hconsistent : (registry.registerAll decl.kinds).1 = none ↔
        Registry.Consistent decl.kinds :=
      Registry.registerAll_eq_none_iff.trans (and_iff_right (checkKinds_of_validate hv))
    simp only [hv, Except.ok.injEq, exists_eq', true_and, ← hconsistent]
    refine ⟨fun ⟨d', hd'⟩ => ?_, fun h => ⟨d, hok.2 h⟩⟩
    cases hr : (registry.registerAll decl.kinds).1 with
    | none => rfl
    | some e =>
      rw [(herror e).2 hr] at hd'
      cases hd'

theorem exists_establish_iff_sound :
    (∃ d, (decl.establish registry).1 = .ok d) ↔ decl.Sound registry := by
  rw [exists_establish_iff, exists_validate_iff, checkKinds_eq_ok_iff, exists_addKeywords_iff,
    checkStatements_eq_ok_iff]
  simp only [Registry.check_eq_ok_iff, checkClauses_eq_ok_iff, knows_eq_true_iff]
  have hfree (kind : Kind) : kind.isReserved = false ↔ Kind.firstCustom ≤ kind.code := by
    simp [Kind.isReserved]
  simp only [hfree]
  constructor
  · rintro ⟨⟨hkinds, ⟨hknown, -, hspelled⟩, hentry, hclauses, -, hentries⟩, hdeclared⟩
    refine ⟨fun e he => (hkinds e he).1, fun e he => (hkinds e he).2, hdeclared, hknown, hspelled,
      hentry, fun s hs c hc => ?_, hentries⟩
    obtain ⟨hc, word, hword⟩ := hclauses s hs c hc
    exact ⟨hc, word, (get?_ofList_iff hspelled).1 hword⟩
  · intro h
    refine ⟨⟨fun e he => ⟨h.free e he, h.registered e he⟩, ⟨h.known, by simp [Agrees], h.spelled⟩,
      h.entry, fun s hs c hc => ?_, by simp, h.entries⟩, h.declared⟩
    obtain ⟨hc, word, hword⟩ := h.clauses s hs c hc
    exact ⟨hc, word, (get?_ofList_iff h.spelled).2 hword⟩

/-! ### The dialect -/

theorem find?_entry_eq_some_iff {statements : List (Statement σ)}
    (h : statements.Pairwise fun s t => s.entry ≠ t.entry) {entry : Kind}
    {statement : Statement σ} :
    (statements.find? fun s => s.entry = entry) = some statement ↔
      statement ∈ statements ∧ statement.entry = entry := by
  refine ⟨fun hfind => ⟨List.mem_of_find?_eq_some hfind, by simpa using List.find?_some hfind⟩, ?_⟩
  rintro ⟨hmem, rfl⟩
  obtain ⟨front, back, rfl⟩ := List.append_of_mem hmem
  have hfront : ∀ s ∈ front, s.entry ≠ statement.entry := fun s hs =>
    (List.pairwise_append.1 h).2.2 s hs statement (.head _)
  exact List.find?_eq_some_iff_append.2 ⟨by simp, front, back, rfl, by simpa using hfront⟩

theorem Sound.describes (h : decl.Sound registry) : decl.Describes decl.dialect where
  keywords word kind := by
    dsimp only [dialect]
    exact get?_ofList_iff h.spelled
  clauses kind := by simp [Dialect.opensClause, dialect]
  statements _ _ := find?_entry_eq_some_iff h.entries

/-- After a success, every declared kind is registered under its description. -/
theorem describe?_of_establish {d : Dialect σ} (h : (decl.establish registry).1 = .ok d) :
    ∀ entry ∈ decl.kinds, (decl.establish registry).2.describe? entry.1 = some entry.2 := by
  rcases decl.establish_eq registry with ⟨e, -, he⟩ | ⟨d', -, hregistry, -, herror⟩
  · rw [he] at h
    cases h
  · cases hr : (registry.registerAll decl.kinds).1 with
    | none => exact hregistry ▸ Registry.describe?_of_registerAll hr
    | some e =>
      rw [(herror e).2 hr] at h
      cases h

/-- **Declarations establish a dialect exactly if they are sound**, whatever the registry holds.
The dialect is then the one that they describe, and the declared kinds are registered. -/
theorem establishes_iff_sound (decl : Declarations σ) (registry : Registry) :
    ((∃ d, (decl.establish registry).1 = .ok d) ↔ decl.Sound registry) ∧
      ∀ d, (decl.establish registry).1 = .ok d → decl.Describes d ∧
        ∀ entry ∈ decl.kinds, (decl.establish registry).2.describe? entry.1 = some entry.2 := by
  refine ⟨exists_establish_iff_sound, fun d h => ⟨?_, describe?_of_establish h⟩⟩
  have hsound : decl.Sound registry := exists_establish_iff_sound.1 ⟨d, h⟩
  rw [eq_dialect_of_establish h]
  exact hsound.describes

/-- Declarations that repeat themselves: a kind, a word in another case, and a shared word. -/
def showing : Declarations Empty :=
  { (named "show" : Declarations Empty) with
    kinds := [(⟨1500⟩, "SHOW"), (⟨1500⟩, "SHOW")]
    keywords := [("Show", ⟨1500⟩), ("SHOW", ⟨1500⟩), ("From", .fromWord)]
    statements :=
      [{ entry := ⟨1500⟩
         kind := .select
         clauses := [⟨⟨1500⟩, .list, .columns, false⟩, ⟨.fromWord, .list, .source, true⟩] }] }

theorem establishes_iff_sound_showing :
    (showing.establish .shared).1 = .ok showing.dialect ∧ showing.Sound .shared ∧
      showing.Describes showing.dialect ∧
      (showing.establish .shared).2.describe? ⟨1500⟩ = some "SHOW" := by
  obtain ⟨hiff, hsuccess⟩ := establishes_iff_sound showing .shared
  have hok : (showing.establish .shared).1.isOk = true := by decide +kernel
  cases h : (showing.establish .shared).1 with
  | error e =>
    rw [h] at hok
    cases hok
  | ok d =>
    obtain rfl := eq_dialect_of_establish h
    obtain ⟨hdescribes, hregistered⟩ := hsuccess _ h
    exact ⟨rfl, hiff.1 ⟨_, h⟩, hdescribes, hregistered _ (.head _)⟩

end Declarations

end RowSieve

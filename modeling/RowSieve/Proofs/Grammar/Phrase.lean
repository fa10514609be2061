import RowSieve.Operator
import RowSieve.Token.Basic

/-!
# Phrases

The parts that grammars are made of.  A grammar says which lists of tokens make up a phrase and
what the phrase stands for; both together are a relation between tokens and meanings.  The
constructions here make relations from relations, so that a grammar can be read off the inductive
type that is made with them.

An operator is a single token, and `Phrase.ComparisonOperator` lists those that compare, for
statements and for programs.
-/

namespace RowSieve

/-- Which tokens make up a phrase, and what it stands for. -/
abbrev Phrase (α : Type) := List Token → α → Prop

namespace Phrase

variable {α : Type}

/-- A name. -/
inductive Word : Phrase String where
  /-- The word that is the name. -/
  | intro {t} : t.kind = .word → Word [t] t.text

/-- One or more phrases with a separator between any two of them. -/
inductive Separated (separator : Kind) (D : Phrase α) : Phrase (List α) where
  /-- A phrase on its own. -/
  | single {ts a} : D ts a → Separated separator D ts [a]
  /-- A phrase, a separator and what follows. -/
  | cons {ts a t us as} : D ts a → t.kind = separator → Separated separator D us as →
    Separated separator D (ts ++ t :: us) (a :: as)

/-- Any number of phrases with commas between them, in parentheses. -/
inductive Parenthesized (D : Phrase α) : Phrase (List α) where
  /-- Nothing in parentheses. -/
  | empty {o c} : o.kind = .leftParen → c.kind = .rightParen → Parenthesized D [o, c] []
  /-- One or more phrases in parentheses. -/
  | filled {o ts as c} : o.kind = .leftParen → Separated .comma D ts as → c.kind = .rightParen →
    Parenthesized D (o :: ts ++ [c]) as

/-- A keyword with a phrase behind it, or neither. -/
inductive Optionally (keyword : Kind) (D : Phrase α) : Phrase (Option α) where
  /-- Both are missing. -/
  | absent : Optionally keyword D [] none
  /-- Both are there. -/
  | present {t ts a} : t.kind = keyword → D ts a → Optionally keyword D (t :: ts) (some a)

/-- A mark between two things that are compared, and the comparison that it stands for. -/
inductive ComparisonOperator : Token → Operator → Prop where
  /-- The mark `=`. -/
  | equal {t} : t.kind = .equal → ComparisonOperator t .equal
  /-- The mark `==`, which says the same. -/
  | doubleEqual {t} : t.kind = .doubleEqual → ComparisonOperator t .equal
  /-- The marks `!=` and `<>`. -/
  | notEqual {t} : t.kind = .notEqual → ComparisonOperator t .notEqual
  /-- The mark `<`. -/
  | less {t} : t.kind = .less → ComparisonOperator t .lessThan
  /-- The mark `<=`. -/
  | lessEqual {t} : t.kind = .lessEqual → ComparisonOperator t .lessEqual
  /-- The mark `>`. -/
  | greater {t} : t.kind = .greater → ComparisonOperator t .greaterThan
  /-- The mark `>=`. -/
  | greaterEqual {t} : t.kind = .greaterEqual → ComparisonOperator t .greaterEqual

variable {p : Token → Prop} {D E : Phrase α} {separator keyword : Kind} {ts : List Token}

/-! ### Operators -/

theorem ComparisonOperator.kind_mem {t : Token} {o : Operator} (h : ComparisonOperator t o) :
    t.kind ∈ [Kind.equal, .doubleEqual, .notEqual, .less, .lessEqual, .greater, .greaterEqual] := by
  cases h <;> simp [*]

/-- The operators that are looked for are those of the grammar. -/
theorem comparison?_eq_some_iff {t : Token} {o : Operator} :
    Operator.comparison? t.kind = some o ↔ ComparisonOperator t o := by
  constructor
  · intro h
    generalize hk : t.kind = kind at h
    unfold Operator.comparison? at h
    split at h
    · exact Option.some.inj h ▸ .equal hk
    · exact Option.some.inj h ▸ .doubleEqual hk
    · exact Option.some.inj h ▸ .notEqual hk
    · exact Option.some.inj h ▸ .less hk
    · exact Option.some.inj h ▸ .lessEqual hk
    · exact Option.some.inj h ▸ .greater hk
    · exact Option.some.inj h ▸ .greaterEqual hk
    · cases h
  · intro h
    cases h <;> simp [Operator.comparison?, *]

/-! ### Phrases inside phrases -/

/-- The parts may be taken for others, as what they are parts of. -/
theorem Separated.mono_of_mem {as : List α} (h : Separated separator D ts as)
    (hDE : ∀ us a, us.Sublist ts → a ∈ as → D us a → E us a) : Separated separator E ts as := by
  induction h with
  | single ha => exact .single (hDE _ _ (.refl _) (.head _) ha)
  | cons ha ht _ ih =>
    refine .cons (hDE _ _ (List.sublist_append_left ..) (.head _) ha) ht
      (ih fun us a hsub hmem => hDE us a ?_ (.tail _ hmem))
    exact (hsub.trans (List.sublist_cons_self ..)).trans (List.sublist_append_right ..)

theorem Separated.mono {as : List α} (h : Separated separator D ts as)
    (hDE : ∀ us a, us.length ≤ ts.length → D us a → E us a) : Separated separator E ts as :=
  h.mono_of_mem fun us a hsub _ => hDE us a hsub.length_le

theorem Parenthesized.mono_of_mem {as : List α} (h : Parenthesized D ts as)
    (hDE : ∀ us a, us.Sublist ts → us.length < ts.length → a ∈ as → D us a → E us a) :
    Parenthesized E ts as := by
  cases h with
  | empty ho hc => exact .empty ho hc
  | filled ho has hc =>
    refine .filled ho (has.mono_of_mem fun us a hsub hmem => hDE us a ?_ ?_ hmem) hc
    · exact (hsub.trans (List.sublist_cons_self ..)).trans (List.sublist_append_left ..)
    · have hlen := hsub.length_le
      simp only [List.length_append, List.length_cons]
      omega

theorem Parenthesized.mono {as : List α} (h : Parenthesized D ts as)
    (hDE : ∀ us a, us.length < ts.length → D us a → E us a) : Parenthesized E ts as :=
  h.mono_of_mem fun us a _ hlen _ => hDE us a hlen

theorem Separated.ne_nil {as : List α} (h : Separated separator D ts as) : as ≠ [] := by
  cases h <;> simp

/-- Each part is made up of tokens of the whole. -/
theorem Separated.exists_of_mem {as : List α} (h : Separated separator D ts as) :
    ∀ a ∈ as, ∃ us, D us a ∧ ∀ t ∈ us, t ∈ ts := by
  induction h with
  | single ha => exact List.forall_mem_singleton.2 ⟨_, ha, fun t ht => ht⟩
  | cons ha _ _ ih =>
    refine List.forall_mem_cons.2 ⟨⟨_, ha, fun t ht => List.mem_append_left _ ht⟩, fun a ha => ?_⟩
    obtain ⟨us, hus, hsub⟩ := ih a ha
    exact ⟨us, hus, fun t ht => List.mem_append_right _ (.tail _ (hsub t ht))⟩

theorem Parenthesized.exists_of_mem {as : List α} (h : Parenthesized D ts as) :
    ∀ a ∈ as, ∃ us, D us a ∧ ∀ t ∈ us, t ∈ ts := by
  cases h with
  | empty => simp
  | filled _ has =>
    intro a ha
    obtain ⟨us, hus, hsub⟩ := has.exists_of_mem a ha
    exact ⟨us, hus, fun t ht => List.mem_append_left _ (.tail _ (hsub t ht))⟩

/-! ### Tokens of phrases -/

/-- Each phrase has a first token, which is no closing parenthesis. -/
def Opens (D : Phrase α) : Prop := ∀ ⦃ts a⦄, D ts a → ∃ t us, ts = t :: us ∧ t.kind ≠ .rightParen

theorem Opens.ne_nil {a : α} (hD : Opens D) (h : D ts a) : ts ≠ [] := by
  obtain ⟨t, us, rfl, -⟩ := hD h
  simp

theorem Opens.append {us : List Token} {a : α} (hD : Opens D) (h : D ts a) :
    ∃ t vs, ts ++ us = t :: vs ∧ t.kind ≠ .rightParen := by
  obtain ⟨t, vs, rfl, ht⟩ := hD h
  exact ⟨t, vs ++ us, rfl, ht⟩

theorem Separated.opens (hD : Opens D) : Opens (Separated separator D) := by
  intro ts as h
  cases h with
  | single ha => exact hD ha
  | cons ha => exact hD.append ha

theorem Parenthesized.exists_head {as : List α} (h : Parenthesized D ts as) :
    ∃ t us, ts = t :: us ∧ t.kind = .leftParen := by
  cases h with
  | empty ho => exact ⟨_, _, rfl, ho⟩
  | filled ho => exact ⟨_, _, rfl, ho⟩

theorem Separated.forall_mem {as : List α} (h : Separated separator D ts as)
    (hp : ∀ t : Token, t.kind = separator → p t) (hD : ∀ ts a, D ts a → ∀ t ∈ ts, p t) :
    ∀ t ∈ ts, p t := by
  induction h with
  | single ha => exact hD _ _ ha
  | cons ha ht _ ih =>
    intro u hu
    rcases List.mem_append.1 hu with hu | hu
    · exact hD _ _ ha u hu
    · rcases List.mem_cons.1 hu with rfl | hu
      · exact hp u ht
      · exact ih u hu

theorem Parenthesized.forall_mem {as : List α} (h : Parenthesized D ts as)
    (hp : ∀ t : Token, t.kind ∈ [Kind.leftParen, .comma, .rightParen] → p t)
    (hD : ∀ ts a, D ts a → ∀ t ∈ ts, p t) : ∀ t ∈ ts, p t := by
  cases h with
  | empty ho hc => simp [hp, ho, hc]
  | filled ho has hc =>
    have hts := has.forall_mem (fun t ht => hp t (by simp [ht])) hD
    intro u hu
    simp only [List.cons_append, List.mem_cons, List.mem_append, List.not_mem_nil, or_false] at hu
    rcases hu with rfl | hu | rfl
    · exact hp u (by simp [ho])
    · exact hts u hu
    · exact hp u (by simp [hc])

theorem Optionally.forall_mem {a : Option α} (h : Optionally keyword D ts a)
    (hp : ∀ t : Token, t.kind = keyword → p t) (hD : ∀ ts a, D ts a → ∀ t ∈ ts, p t) :
    ∀ t ∈ ts, p t := by
  cases h with
  | absent => simp
  | present ht ha => exact List.forall_mem_cons.2 ⟨hp _ ht, hD _ _ ha⟩

end Phrase

end RowSieve

import RowSieve.Proofs.Expr.Acceptance
import RowSieve.Proofs.Expr.Falls

/-!
# Properties that come from the parts

A property of expressions is `Compositional` if the expressions without parts have it and it goes on
from the parts of an expression to the whole.  Then every expression of a program that is read from
a source has it (`Compositional.of_compile`), whatever the level of operators that it belongs to.
-/

namespace RowSieve

open Phrase

/-- The expression that an instruction works out. -/
def Instruction.expr : Instruction → Expr
  | filter condition => condition
  | assign _ value => value

/-- A property of expressions that comes from their parts, where the tokens are of a sort. -/
structure Compositional (fs : Functions) (P : Token → Prop) (Q : Expr → Prop) : Prop where
  /-- A whole number that a token spells. -/
  integer : ∀ t n, P t → t.kind = .number → Decimal.readInt64? t.text = some n → Q (.integer n)
  /-- A double. -/
  float : ∀ x, Q (.float x)
  /-- A text. -/
  text : ∀ s, Q (.text s)
  /-- A truth value. -/
  boolean : ∀ b, Q (.boolean b)
  /-- No value. -/
  null : Q .null
  /-- The value under a name. -/
  field : ∀ name, Q (.field name)
  /-- An operator between two expressions. -/
  binary : ∀ operator left right, Q left → Q right → Q (.binary operator left right)
  /-- A negation. -/
  not : ∀ operand, Q operand → Q (.not operand)
  /-- A sign in front of an expression. -/
  negate : ∀ operand, Q operand → Q (Compile.negate operand)
  /-- A call of a function that takes so many arguments. -/
  call : ∀ name arguments, (∃ f, fs.get? name = some f ∧ f.accepts arguments.length) →
    (∀ e ∈ arguments, Q e) → Q (.call name arguments)

namespace Compositional

variable {fs : Functions} {P : Token → Prop} {Q : Expr → Prop} {D : Phrase Expr}
  {O : Token → Operator → Prop} {ts : List Token} {e : Expr}

section Levels

variable (hQ : Compositional fs P Q) (hts : ∀ t ∈ ts, P t)
  (hD : ∀ us a, (∀ t ∈ us, P t) → D us a → Q a)
include hQ hts hD

theorem of_leftGrouped (h : LeftGrouped O D ts e) : Q e := by
  induction h with
  | operand h => exact hD _ _ hts h
  | binary _ _ h ih =>
    obtain ⟨hleft, hright⟩ := List.forall_mem_append.1 hts
    exact hQ.binary _ _ _ (ih hleft) (hD _ _ (List.forall_mem_cons.1 hright).2 h)

theorem of_negated (h : Negated D ts e) : Q e := by
  induction h with
  | operand _ h => exact hD _ _ hts h
  | not _ _ ih => exact hQ.not _ (ih (List.forall_mem_cons.1 hts).2)

theorem of_compared (h : Compared D ts e) : Q e := by
  cases h with
  | operand h => exact hD _ _ hts h
  | binary h _ h' =>
    obtain ⟨hleft, hright⟩ := List.forall_mem_append.1 hts
    exact hQ.binary _ _ _ (hD _ _ hleft h) (hD _ _ (List.forall_mem_cons.1 hright).2 h')

theorem of_signed (h : Signed D ts e) : Q e := by
  induction h with
  | operand _ h => exact hD _ _ hts h
  | integer _ _ ih => exact hQ.negate _ (ih (List.forall_mem_cons.1 hts).2)
  | float _ _ ih => exact hQ.negate _ (ih (List.forall_mem_cons.1 hts).2)
  | difference _ _ hn hx ih =>
    exact Compile.negate_of_ne hn hx ▸ hQ.negate _ (ih (List.forall_mem_cons.1 hts).2)

theorem of_primary (h : Primary fs D ts e) : Q e := by
  cases h with
  | integer hk hn => exact hQ.integer _ _ (hts _ (.head _)) hk hn
  | float => exact hQ.float _
  | text => exact hQ.text _
  | true | false => exact hQ.boolean _
  | null => exact hQ.null
  | field => exact hQ.field _
  | call _ hf hargs hleast hmost =>
    refine hQ.call _ _ ⟨_, hf, Function.accepts_iff.2 ⟨hleast, hmost⟩⟩ fun a ha => ?_
    obtain ⟨us, hus, hsub⟩ := hargs.exists_of_mem a ha
    exact hD us a (fun t ht => hts t (.tail _ (hsub t ht))) hus
  | group _ h _ => exact hD _ _ (fun t ht => hts t (List.mem_append_left _ (.tail _ ht))) h

theorem of_ladder (h : Ladder fs D ts e) : Q e := by
  -- Level by level, as the parts of each level are expressions of the next one.
  refine hQ.of_leftGrouped hts (fun _ _ hts h => ?_) h
  refine hQ.of_leftGrouped hts (fun _ _ hts h => ?_) h
  refine hQ.of_negated hts (fun _ _ hts h => ?_) h
  refine hQ.of_compared hts (fun _ _ hts h => ?_) h
  refine hQ.of_leftGrouped hts (fun _ _ hts h => ?_) h
  refine hQ.of_leftGrouped hts (fun _ _ hts h => ?_) h
  refine hQ.of_signed hts (fun _ _ hts h => ?_) h
  exact hQ.of_primary hts hD h

end Levels

variable (hQ : Compositional fs P Q)
include hQ

theorem of_expression (hts : ∀ t ∈ ts, P t) (h : Expression fs ts e) : Q e :=
  Expression.induct (P := fun ts e => (∀ t ∈ ts, P t) → Q e)
    (fun _ _ hladder hts => hQ.of_ladder hts (fun _ _ hus ha => ha.2 hus) hladder) h hts

theorem of_instructing {i : Instruction} (hts : ∀ t ∈ ts, P t) (h : Instructing fs ts i) :
    Q i.expr := by
  cases h with
  | filter _ _ he _ =>
    refine hQ.of_expression (fun t ht => hts t ?_) he
    exact List.mem_append_left _ (.tail _ (.tail _ ht))
  | assign _ _ he => exact hQ.of_expression (fun t ht => hts t (.tail _ (.tail _ ht))) he
  | bare he => exact hQ.of_expression hts he

theorem of_instructions {is : List Instruction} (hts : ∀ t ∈ ts, P t)
    (h : Instructions fs ts is) : ∀ i ∈ is, Q i.expr := by
  induction h with
  | single hi => exact List.forall_mem_singleton.2 (hQ.of_instructing hts hi)
  | cons hi _ _ ih =>
    obtain ⟨hfront, hback⟩ := List.forall_mem_append.1 hts
    exact List.forall_mem_cons.2
      ⟨hQ.of_instructing (List.forall_mem_append.1 hfront).1 hi, ih hback⟩

/-- All expressions have the property in a program that is read from a source. -/
theorem of_compile {source : String} {p : Program} (h : compile fs source = .ok p)
    (hP : ∀ raw, scan source = .ok raw → ∀ t ∈ raw, P t) :
    ∀ i ∈ p.instructions, Q i.expr := by
  unfold compile programTokens at h
  cases hscan : scan source with
  | error e => simp [hscan] at h
  | ok raw =>
    simp only [hscan] at h
    obtain ⟨⟨p, ts'⟩, hp, rfl⟩ := map_eq_ok_iff.1 h
    have hterm := terminated_of_scan hscan
    have hall : ∀ t ∈ raw.filter fun t => t.kind ≠ .comment, P t :=
      fun t ht => hP raw hscan t (List.mem_filter.1 ht).1
    obtain ⟨ts, t, hts, -⟩ := hterm.exists_append
    rw [hts] at hterm hp hall
    obtain ⟨-, his, -⟩ := Compile.program_sound hterm hp
    obtain ⟨hfront, -⟩ := List.forall_mem_append.1 hall
    exact hQ.of_instructions
      (List.forall_mem_append.1 (List.forall_mem_append.1 hfront).1).2 his

end Compositional

end RowSieve

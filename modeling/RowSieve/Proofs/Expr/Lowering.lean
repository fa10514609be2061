import RowSieve.Expr.Lowering
import RowSieve.Proofs.Expr.Running
import Mathlib.Data.List.Forall2

/-!
# What a request is turned into

`Program.ofRequest_eq_ok_iff` takes the program of a request apart: one filter for each predicate,
in the order of the fields, and then one assignment for each column, in the order of the columns.
-/

namespace RowSieve

variable {fs : Functions} {written read : Row}

/-- What is written for a value has that value, whatever the rows are. -/
@[simp] theorem eval_toExpr (v : Value) : eval fs written read v.toExpr = .ok v := by
  cases v <;> rfl

/-- The instruction writes what the column holds, under the name of the column. -/
def Column.Assigns (fs : Functions) (c : Column) (i : Instruction) : Prop :=
  ∃ e, c.source.toExpr fs = .ok e ∧ i = .assign c.name e

theorem Column.assignments_eq_ok_iff {cs : List Column} {is : List Instruction} :
    Column.assignments fs cs = .ok is ↔ List.Forall₂ (Column.Assigns fs) cs is := by
  induction cs generalizing is with
  | nil =>
    rw [List.forall₂_nil_left_iff]
    exact ⟨fun h => (Except.ok.inj h).symm, fun h => h ▸ rfl⟩
  | cons c cs ih =>
    rw [List.forall₂_cons_left_iff, Column.assignments]
    cases hc : c.source.toExpr fs with
    | error e => simp [Column.Assigns, hc]
    | ok e =>
      simp only [map_eq_ok_iff, ih]
      constructor
      · rintro ⟨js, hjs, rfl⟩
        exact ⟨_, js, ⟨e, hc, rfl⟩, hjs, rfl⟩
      · rintro ⟨i, js, ⟨e', he', rfl⟩, hjs, rfl⟩
        cases hc.symm.trans he'
        exact ⟨js, hjs, rfl⟩

/-- Whether columns can be assigned does not depend on their order. -/
theorem Column.exists_assigns_iff {cs : List Column} :
    (∃ is, List.Forall₂ (Column.Assigns fs) cs is) ↔
      ∀ c ∈ cs, ∃ e, c.source.toExpr fs = .ok e := by
  constructor
  · rintro ⟨is, h⟩
    induction h with
    | nil => simp
    | cons hassigns _ ih =>
      obtain ⟨e, he, -⟩ := hassigns
      exact List.forall_mem_cons.2 ⟨⟨e, he⟩, ih⟩
  · intro h
    induction cs with
    | nil => exact ⟨[], .nil⟩
    | cons c cs ih =>
      obtain ⟨⟨e, he⟩, hcs⟩ := List.forall_mem_cons.1 h
      obtain ⟨is, his⟩ := ih hcs
      exact ⟨_, .cons ⟨e, he, rfl⟩ his⟩

theorem Column.exists_assigns_of_append {cs ds : List Column} {is : List Instruction}
    (h : List.Forall₂ (Column.Assigns fs) (cs ++ ds) is) :
    ∃ js ks, is = js ++ ks ∧ List.Forall₂ (Column.Assigns fs) cs js ∧
      List.Forall₂ (Column.Assigns fs) ds ks := by
  induction cs generalizing is with
  | nil => exact ⟨[], is, rfl, .nil, h⟩
  | cons c cs ih =>
    obtain ⟨i, is, hi, his, rfl⟩ := List.forall₂_cons_left_iff.1 h
    obtain ⟨js, ks, rfl, hjs, hks⟩ := ih his
    exact ⟨i :: js, ks, rfl, .cons hi hjs, hks⟩

/-- What is written are the names of the columns, in order. -/
theorem Column.filterMap_target? {cs : List Column} {is : List Instruction}
    (h : List.Forall₂ (Column.Assigns fs) cs is) :
    is.filterMap Instruction.target? = cs.map (·.name) := by
  induction h with
  | nil => rfl
  | cons hassigns _ ih =>
    obtain ⟨e, -, rfl⟩ := hassigns
    rw [List.filterMap_cons_some (target?_assign _ _), ih, List.map_cons]

theorem Column.exists_target_iff {cs : List Column} {is : List Instruction}
    (h : List.Forall₂ (Column.Assigns fs) cs is) (name : String) :
    (∃ i ∈ is, i.target? = some name) ↔ name ∈ cs.map (·.name) := by
  rw [← Column.filterMap_target? h, List.mem_filterMap]

/-- The filters for the predicates of a request, in order. -/
def Request.filters (r : Request) : List Instruction :=
  r.predicates.entries.map fun p => r.filter p.1 p.2

theorem Request.target?_of_mem_filters {r : Request} {i : Instruction} (hi : i ∈ r.filters) :
    i.target? = none := by
  obtain ⟨p, -, rfl⟩ := List.mem_map.1 hi
  exact target?_filter _

theorem Program.ofRequest_eq_ok_iff {r : Request} {p : Program} :
    Program.ofRequest fs r = .ok p ↔ ∃ is, List.Forall₂ (Column.Assigns fs) r.columns is ∧
      p = ⟨r.filters ++ is, r.limit⟩ := by
  rw [Program.ofRequest, map_eq_ok_iff]
  exact exists_congr fun is => and_congr Column.assignments_eq_ok_iff eq_comm

/-- The program of a request writes the columns, in order. -/
theorem Program.outputs_ofRequest {r : Request} {p : Program}
    (h : Program.ofRequest fs r = .ok p) : p.outputs = r.columns.map (·.name) := by
  obtain ⟨is, his, rfl⟩ := Program.ofRequest_eq_ok_iff.1 h
  have hfilters : r.filters.filterMap Instruction.target? = [] :=
    List.filterMap_eq_nil_iff.2 fun i hi => Request.target?_of_mem_filters hi
  rw [Program.outputs, List.filterMap_append, hfilters, Column.filterMap_target? his,
    List.nil_append]

end RowSieve

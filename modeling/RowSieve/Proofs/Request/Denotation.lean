import RowSieve.Proofs.Request.Derivation
import RowSieve.Request.Clauses

/-!
# The request of a selection

Reading a statement builds its request clause by clause, and predicate by predicate within one
clause.  `Selection.request` is what comes out, and `Selection.denotes_iff` compares it with
`Selection.Denotes`, which says what the request should hold: inserting predicates one after the
other leaves the last one on each field.
-/

namespace RowSieve

namespace Request

/-- Records a predicate in a request. -/
def record (recording : Recording) (r : Request) (p : Predicate) : Request :=
  r.addPredicate recording p.field p.operator p.operand

/-- Predicates change what is recorded of predicates and nothing else. -/
theorem foldl_record (ps : List Predicate) (r : Request) :
    ps.foldl (record .operand) r =
      { r with
        predicates := ps.foldl (fun d p => d.insert p.field p.operand) r.predicates
        operators := ps.foldl (fun d p => d.insert p.field p.operator) r.operators } := by
  induction ps generalizing r with
  | nil => rfl
  | cons p ps ih => rw [List.foldl_cons, ih]; rfl

@[simp] theorem columns_foldl_record (recording : Recording) (ps : List Predicate) (r : Request) :
    (ps.foldl (record recording) r).columns = r.columns := by
  induction ps generalizing r with
  | nil => rfl
  | cons p ps ih => rw [List.foldl_cons, ih]; cases recording <;> rfl

end Request

namespace Selection

/-- The request that a selection with the given comments builds, clause by clause. -/
def request (q : Selection) (comments : List String) : Request :=
  let r : Request := ⟨.select, q.columns, some q.source, .empty, .empty, none, []⟩
  let r := q.predicates.elim r fun ps => ps.foldl (Request.record .operand) r
  let r := q.limit.elim r fun n => { r with limit := some n }
  { r with comments := comments }

/-- The same in a dialect whose predicates record something else. -/
def requestBy (recording : Recording) (q : Selection) (comments : List String) : Request :=
  let r : Request := ⟨.select, q.columns, some q.source, .empty, .empty, none, []⟩
  let r := q.predicates.elim r fun ps => ps.foldl (Request.record recording) r
  let r := q.limit.elim r fun n => { r with limit := some n }
  { r with comments := comments }

@[simp] theorem columns_requestBy (recording : Recording) (q : Selection) (comments : List String) :
    (q.requestBy recording comments).columns = q.columns := by
  obtain ⟨columns, source, predicates, limit⟩ := q
  cases predicates <;> cases limit <;> simp [requestBy]

theorem request_eq (q : Selection) (comments : List String) :
    q.request comments =
      ⟨.select, q.columns, some q.source,
        (q.predicates.getD []).foldl (fun d p => d.insert p.field p.operand) .empty,
        (q.predicates.getD []).foldl (fun d p => d.insert p.field p.operator) .empty,
        q.limit, comments⟩ := by
  obtain ⟨columns, source, predicates, limit⟩ := q
  cases predicates <;> cases limit <;> simp [request, Request.foldl_record]

theorem denotes_iff {q : Selection} {comments : List String} {r : Request} :
    q.Denotes comments r ↔ q.request comments = r := by
  rw [request_eq]
  constructor
  · rintro ⟨hkind, hcolumns, hsource, hpredicates, hoperators, hlimit, hcomments⟩
    have hp : r.predicates =
        (q.predicates.getD []).foldl (fun d p => d.insert p.field p.operand) .empty :=
      Dictionary.ext_get? fun name => by
        rw [hpredicates, Dictionary.get?_foldl_insert]
        simp [last?]
    have ho : r.operators =
        (q.predicates.getD []).foldl (fun d p => d.insert p.field p.operator) .empty :=
      Dictionary.ext_get? fun name => by
        rw [hoperators, Dictionary.get?_foldl_insert]
        simp [last?]
    obtain ⟨kind, columns, source, predicates, operators, limit, comments'⟩ := r
    simp_all
  · rintro rfl
    refine ⟨rfl, rfl, rfl, fun name => ?_, fun name => ?_, rfl, rfl⟩
    · simp [Dictionary.get?_foldl_insert, last?]
    · simp [Dictionary.get?_foldl_insert, last?]

end Selection

end RowSieve

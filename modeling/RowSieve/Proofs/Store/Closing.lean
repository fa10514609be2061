import RowSieve.Proofs.Store.Appending

/-!
# Calls on a store, and its closing

An `Archive` is a file with the stores that have been opened on it, one after the other, and the
handles to them.  `Archive.call` is what a call does, through whichever handle; `Archive.Run` is any
run from an empty file in which a store is opened only when the ones before it have been closed by
calls.

A store is closed for all of its handles by a call through one of them, and by nothing else, and it
stays closed (`Archive.Run.isOpen_eq_false_iff`).  The invariant is `Archive.Accounted`.
-/

namespace RowSieve

/-! ### Calls -/

/-- A file, and the stores that have been opened on it. -/
structure Archive where
  /-- What is in the file. -/
  file : List UInt8
  /-- The stores, in the order in which they were opened. -/
  stores : List Store
  /-- The store that each handle belongs to. -/
  handles : List Nat

/-- A call. -/
inductive Call where
  /-- Opens a store on the file, with a first handle. -/
  | openFile
  /-- Makes another handle to the store of a handle. -/
  | clone (handle : Nat)
  /-- Puts a value under a key. -/
  | put (handle : Nat) (key value : String)
  /-- Asks for the value under a key. -/
  | get (handle : Nat) (key : String)
  /-- Asks for the number of keys. -/
  | size (handle : Nat)
  /-- Writes to the file what is to be written. -/
  | flush (handle : Nat)
  /-- Closes the store. -/
  | close (handle : Nat)

/-- What a call answers. -/
inductive Answer where
  /-- It has been done. -/
  | done
  /-- It has failed. -/
  | failed (e : Store.Error)
  /-- The value under a key. -/
  | value (v : Option String)
  /-- The number of keys. -/
  | count (n : Nat)
deriving DecidableEq

/-- A call with its answer. -/
structure Event where
  /-- The call. -/
  call : Call
  /-- The answer. -/
  answer : Answer

namespace Archive

/-- An empty file. -/
def empty : Archive := ⟨[], [], []⟩

/-- The store of a handle, whose log is the file, and its place. -/
def store? (a : Archive) (handle : Nat) : Option (Nat × Store) :=
  (a.handles[handle]?).bind fun i => (a.stores[i]?).map fun s => (i, { s with log := a.file })

/-- The archive after a store has changed. -/
def update (a : Archive) (i : Nat) (s : Store) : Archive :=
  { a with file := s.log, stores := a.stores.set i s }

/-- The answer to a call, and the archive after it.  There is none without a store for the
handle. -/
def call (a : Archive) : Call → Option (Answer × Archive)
  | .openFile =>
    match Store.load a.file with
    | .ok s => some (.done, { a with
        stores := a.stores ++ [s]
        handles := a.handles ++ [a.stores.length] })
    | .error e => some (.failed e, a)
  | .clone handle => (a.store? handle).map fun (i, _) =>
      (.done, { a with handles := a.handles ++ [i] })
  | .put handle key value => (a.store? handle).map fun (i, s) =>
      match s.put key value with
      | .ok s => (.done, a.update i s)
      | .error e => (.failed e, a)
  | .get handle key => (a.store? handle).map fun (_, s) => (.value (s.get? key), a)
  | .size handle => (a.store? handle).map fun (_, s) => (.count s.size, a)
  | .flush handle => (a.store? handle).map fun (i, s) => (.done, a.update i s.flush)
  | .close handle => (a.store? handle).map fun (i, s) => (.done, a.update i s.close)

/-- The archive after the store in a place has written some of what is to be written. -/
def spill (a : Archive) (i : Nat) (s : Store) (count : Nat) : Archive :=
  a.update i { s with
    log := a.file ++ s.pending.take count
    pending := s.pending.drop count }

/-- A store has been closed by a call through one of its handles. -/
def ClosedBy (a : Archive) (events : List Event) (i : Nat) : Prop :=
  ∃ handle, a.handles[handle]? = some i ∧ ⟨.close handle, .done⟩ ∈ events

/-- Every store has been closed by a call. -/
def ClosedByCalls (a : Archive) (events : List Event) : Prop :=
  ∀ i < a.stores.length, a.ClosedBy events i

/-- The runs from an empty file, in which a store is opened only when the ones before it have been
closed. -/
inductive Run : List Event → Archive → Prop
  /-- Nothing has been called. -/
  | start : Run [] empty
  /-- One more call. -/
  | call {events : List Event} {a b : Archive} {c : Call} {answer : Answer} : Run events a →
    (c = .openFile → a.ClosedByCalls events) → a.call c = some (answer, b) →
    Run (events ++ [⟨c, answer⟩]) b
  /-- A store writes before it is asked to, because much is to be written. -/
  | spill {events : List Event} {a : Archive} {i : Nat} {s : Store} (count : Nat) : Run events a →
    a.stores[i]? = some s → Run events (a.spill i s count)

variable {a b : Archive} {events : List Event} {e : Event} {i j handle : Nat} {s t : Store}

/-- A call through a handle is answered by the store of the handle. -/
theorem map_store?_eq_some {α : Type} {f : Nat × Store → α} {x : α}
    (h : (a.store? handle).map f = some x) :
    ∃ i s, a.handles[handle]? = some i ∧ a.stores[i]? = some s ∧
      f (i, { s with log := a.file }) = x := by
  obtain ⟨p, hstore, h⟩ := Option.map_eq_some_iff.1 h
  obtain ⟨i, hhandle, hstore⟩ := Option.bind_eq_some_iff.1 hstore
  obtain ⟨s, hs, rfl⟩ := Option.map_eq_some_iff.1 hstore
  exact ⟨i, s, hhandle, hs, h⟩

theorem store?_of_getElem? (hhandle : a.handles[handle]? = some i) (hs : a.stores[i]? = some s) :
    a.store? handle = some (i, { s with log := a.file }) := by
  simp [store?, hhandle, hs]

/-! ### Which stores are closed -/

/-- The closed stores are those that a call has closed. -/
structure Accounted (a : Archive) (events : List Event) : Prop where
  /-- Every handle belongs to a store. -/
  stored : ∀ handle i : Nat, a.handles[handle]? = some i → i < a.stores.length
  /-- The calls that close are through handles that there are. -/
  named : ∀ (handle : Nat) (answer : Answer), ⟨.close handle, answer⟩ ∈ events →
    handle < a.handles.length
  /-- A store is closed exactly when a call has closed it. -/
  closed : ∀ (i : Nat) (s : Store), a.stores[i]? = some s →
    (s.isOpen = false ↔ a.ClosedBy events i)

theorem accounted_empty : empty.Accounted [] where
  stored handle i h := by simp [empty] at h
  named handle answer h := by simp at h
  closed i s h := by simp [empty] at h

namespace Accounted

/-- A call that closes nothing. -/
theorem append (h : a.Accounted events) (he : ∀ handle, e.call ≠ .close handle) :
    a.Accounted (events ++ [e]) := by
  have hmem (handle : Nat) (answer : Answer) :
      ⟨.close handle, answer⟩ ∈ events ++ [e] ↔ ⟨.close handle, answer⟩ ∈ events := by
    rw [List.mem_append, List.mem_singleton]
    exact or_iff_left fun heq => he handle (heq ▸ rfl)
  refine ⟨h.stored, fun handle answer hclose => h.named _ _ ((hmem _ _).1 hclose), fun i s hs => ?_⟩
  simp only [ClosedBy, hmem]
  exact h.closed i s hs

/-- A store changes, and is not closed by it. -/
theorem update (h : a.Accounted events) (hs : a.stores[i]? = some s) (ht : t.isOpen = s.isOpen) :
    (a.update i t).Accounted events := by
  refine ⟨fun handle j hj => ?_, h.named, fun j u hu => ?_⟩
  · simpa [Archive.update] using h.stored handle j hj
  · simp only [Archive.update, List.getElem?_set] at hu
    split_ifs at hu with hij
    · cases hu
      subst hij
      rw [ht]
      exact h.closed i s hs
    · exact h.closed j u hu

/-- A store is closed. -/
theorem close (h : a.Accounted events) (hhandle : a.handles[handle]? = some i)
    (ht : t.isOpen = false) : (a.update i t).Accounted (events ++ [⟨.close handle, .done⟩]) := by
  refine ⟨fun handle j hj => ?_, fun other answer hclose => ?_, fun j u hu => ?_⟩
  · simpa [Archive.update] using h.stored handle j hj
  · rcases List.mem_append.1 hclose with hclose | hclose
    · exact h.named other answer hclose
    · obtain ⟨rfl, -⟩ : other = handle ∧ answer = .done := by simpa using hclose
      exact (List.getElem?_eq_some_iff.1 hhandle).1
  · simp only [Archive.update, List.getElem?_set] at hu
    split_ifs at hu with hij
    · cases hu
      subst hij
      exact iff_of_true ht ⟨handle, hhandle, by simp⟩
    · rw [h.closed j u hu]
      constructor
      · rintro ⟨other, hother, hclose⟩
        exact ⟨other, hother, List.mem_append_left _ hclose⟩
      · rintro ⟨other, hother, hclose⟩
        refine ⟨other, hother, (List.mem_append.1 hclose).resolve_right fun heq => hij ?_⟩
        -- The handle belongs to the store that is closed now, and to no other.
        obtain rfl : other = handle := by simpa using heq
        exact Option.some.inj (hhandle.symm.trans hother)

/-- A new handle, and the stores that are opened with it. -/
theorem addHandle (h : a.Accounted events) {opened : List Store}
    (hi : i < (a.stores ++ opened).length) (hopened : ∀ t ∈ opened, t.isOpen = true) :
    Accounted { a with stores := a.stores ++ opened, handles := a.handles ++ [i] } events := by
  -- No call has closed anything through the new handle.
  have hclosed (j : Nat) : ClosedBy { a with
      stores := a.stores ++ opened
      handles := a.handles ++ [i] } events j ↔ a.ClosedBy events j := by
    refine exists_congr fun handle => and_congr_left fun hclose => ?_
    rw [List.getElem?_append_left (h.named handle _ hclose)]
  refine ⟨fun handle j hj => ?_, fun handle answer hclose => ?_, fun j u hu => ?_⟩
  · rcases List.mem_append.1 (List.mem_of_getElem? hj) with hmem | hmem
    · obtain ⟨other, hother⟩ := List.mem_iff_getElem?.1 hmem
      rw [List.length_append]
      exact Nat.lt_add_right _ (h.stored other j hother)
    · rwa [List.mem_singleton.1 hmem]
  · rw [List.length_append]
    exact Nat.lt_add_right _ (h.named handle answer hclose)
  · rw [hclosed]
    by_cases hj : j < a.stores.length
    · exact h.closed j u (by rwa [List.getElem?_append_left hj] at hu)
    · rw [List.getElem?_append_right (Nat.le_of_not_lt hj)] at hu
      refine iff_of_false (by simp [hopened u (List.mem_of_getElem? hu)]) ?_
      rintro ⟨handle, hhandle, -⟩
      exact hj (h.stored handle j hhandle)

/-- **Every call accounts for what it closes.** -/
theorem call {c : Call} {answer : Answer} (h : a.Accounted events)
    (hc : a.call c = some (answer, b)) : b.Accounted (events ++ [⟨c, answer⟩]) := by
  cases c with
  | openFile =>
    rw [Archive.call] at hc
    split at hc
    next s hload =>
      cases hc
      obtain ⟨-, -, -, hopen⟩ := Store.load_eq_ok_iff.1 hload
      exact (h.addHandle (by simp) (List.forall_mem_singleton.2 hopen)).append (by simp)
    next =>
      cases hc
      exact h.append (by simp)
  | clone handle =>
    obtain ⟨i, s, hhandle, -, hc⟩ := map_store?_eq_some hc
    cases hc
    have hi : i < (a.stores ++ []).length := by simpa using h.stored handle i hhandle
    have hclone := h.addHandle hi (List.forall_mem_nil _)
    rw [List.append_nil] at hclone
    exact hclone.append (by simp)
  | put handle key value =>
    obtain ⟨i, s, -, hs, hc⟩ := map_store?_eq_some hc
    cases hopen : s.isOpen with
    | false =>
      simp only [Store.put, hopen, Bool.false_eq_true, if_false] at hc
      cases hc
      exact h.append (by simp)
    | true =>
      simp only [Store.put, hopen, if_true] at hc
      cases hc
      exact (h.update hs hopen.symm).append (by simp)
  | get handle key =>
    obtain ⟨i, s, -, -, hc⟩ := map_store?_eq_some hc
    cases hc
    exact h.append (by simp)
  | size handle =>
    obtain ⟨i, s, -, -, hc⟩ := map_store?_eq_some hc
    cases hc
    exact h.append (by simp)
  | flush handle =>
    obtain ⟨i, s, -, hs, hc⟩ := map_store?_eq_some hc
    cases hc
    have hflush := h.update (t := Store.flush { s with log := a.file }) hs rfl
    exact hflush.append (by simp)
  | close handle =>
    obtain ⟨i, s, hhandle, -, hc⟩ := map_store?_eq_some hc
    cases hc
    exact h.close hhandle rfl

end Accounted

/-- **At any time of a run**, the closed stores are those that a call has closed. -/
theorem Run.accounted (h : Run events a) : a.Accounted events := by
  induction h with
  | start => exact accounted_empty
  | call _ _ hc ih => exact ih.call hc
  | spill _ _ hs ih => exact ih.update hs rfl

/-- Stores are closed by calls, for all of their handles and for good. -/
theorem Run.isOpen_eq_false_iff (h : Run events a) (hs : a.stores[i]? = some s) :
    s.isOpen = false ↔ a.ClosedBy events i := h.accounted.closed i s hs

end Archive

end RowSieve

import Mathlib.Data.Finset.Card
import RowSieve.Proofs.Store.Closing

/-!
# A store over whole runs

Over a run the archive is one map in which the last value put under a key counts, whatever sessions
the values were put in (`Archive.Run.keeps_map`).  The invariant is `Archive.Holds`: what is in the
file and what the current store has not yet written are the lines of all values that were put, and
the current store has the values that are left of them.
-/

namespace RowSieve

/-! ### What has been put -/

/-- The entry that an event puts. -/
def Event.put? : Event → Option Entry
  | ⟨.put _ key value, .done⟩ => some ⟨key, value⟩
  | _ => none

/-- The entries that have been put, in order. -/
def entriesPut (events : List Event) : List Entry := events.filterMap Event.put?

theorem entriesPut_append (events : List Event) (e : Event) :
    entriesPut (events ++ [e]) = entriesPut events ++ e.put?.toList := by
  rw [entriesPut, List.filterMap_append]
  cases h : e.put? <;> simp [h, entriesPut]

/-- The value that was put under a key last. -/
def lastValue? (entries : List Entry) (key : String) : Option String :=
  ((entries.filter fun e => e.key = key).getLast?).map Entry.value

/-- The values that are left when entries are put one after the other. -/
def valuesOf (entries : List Entry) : Dictionary String :=
  entries.foldl (fun d e => d.insert e.key e.value) .empty

/-- The lines of entries. -/
def bytesOf (entries : List Entry) : List UInt8 := entries.flatMap fun e => utf8 e.line

variable {entries : List Entry}

theorem get?_valuesOf (entries : List Entry) (key : String) :
    (valuesOf entries).get? key = lastValue? entries key := by
  rw [valuesOf, Dictionary.get?_foldl_insert, Dictionary.get?_empty, Option.or_none]
  rfl

theorem valuesOf_append (entries : List Entry) (e : Entry) :
    valuesOf (entries ++ [e]) = (valuesOf entries).insert e.key e.value := by
  simp [valuesOf]

theorem bytesOf_append (entries : List Entry) (e : Entry) :
    bytesOf (entries ++ [e]) = bytesOf entries ++ utf8 e.line := by
  simp [bytesOf]

theorem lastValue?_ne_none_iff {key : String} :
    lastValue? entries key ≠ none ↔ key ∈ entries.map Entry.key := by
  simp [lastValue?]

theorem Dictionary.card_names {α : Type} (d : Dictionary α) : d.names.toFinset.card = d.size := by
  rw [List.toFinset_card_of_nodup d.nodup_names]
  exact List.length_map _

/-- There are as many values as there are keys. -/
theorem size_valuesOf (entries : List Entry) :
    (valuesOf entries).size = (entries.map Entry.key).toFinset.card := by
  have hnames : (valuesOf entries).names.toFinset = (entries.map Entry.key).toFinset := by
    ext key
    rw [List.mem_toFinset, List.mem_toFinset, ← lastValue?_ne_none_iff, ← get?_valuesOf,
      Dictionary.mem_names_iff]
  rw [← hnames, Dictionary.card_names]

/-- **The lines of entries are loaded as the values that are left of them.** -/
theorem load_bytesOf (entries : List Entry) :
    Store.load (bytesOf entries) = .ok ⟨bytesOf entries, [], valuesOf entries, true⟩ := by
  refine Store.load_eq_ok_iff.2 ⟨?_, rfl, rfl, rfl⟩
  induction entries using List.reverseRecOn with
  | nil => rfl
  | append_singleton entries e ih =>
    have hblank : EndsBlank (bytesOf entries) := by
      refine endsBlank_of_finished ?_
      cases entries using List.reverseRecOn with
      | nil => nofun
      | append_singleton entries e =>
        rw [bytesOf_append]
        exact Store.finished_append_line _ e
    have hafter := Store.replay_append_entry ih e
    rw [if_pos hblank] at hafter
    rw [bytesOf_append, valuesOf_append]
    exact hafter

namespace Archive

variable {a b : Archive} {i : Nat} {s t : Store}

/-! ### What holds at any time -/

/-- All stores are closed. -/
def Closed (a : Archive) : Prop := ∀ s ∈ a.stores, s.isOpen = false

/-- The archive holds the values of the entries that have been put. -/
structure Holds (entries : List Entry) (a : Archive) : Prop where
  /-- Only the current store may be open. -/
  last : ∀ (i : Nat) (s : Store), a.stores[i]? = some s → s.isOpen = true → i + 1 = a.stores.length
  /-- A closed store has written everything. -/
  written : ∀ (i : Nat) (s : Store), a.stores[i]? = some s → s.isOpen = false → s.pending = []
  /-- The entries are in the file or about to be written, and the current store has their values. -/
  current : ∀ (i : Nat) (s : Store), a.stores[i]? = some s → i + 1 = a.stores.length →
    a.file ++ s.pending = bytesOf entries ∧ s.data = valuesOf entries
  /-- Without a store, nothing has been put. -/
  fresh : a.stores = [] → a.file = [] ∧ entries = []

theorem holds_empty : empty.Holds [] where
  last i s h := by simp [empty] at h
  written i s h := by simp [empty] at h
  current i s h := by simp [empty] at h
  fresh _ := ⟨rfl, rfl⟩

/-- A change of the current store, or of one that is closed and stays so. -/
theorem Holds.update {entries' : List Entry} (h : a.Holds entries) (hs : a.stores[i]? = some s)
    (hopen : t.isOpen = true → i + 1 = a.stores.length)
    (hwritten : t.isOpen = false → t.pending = [])
    (hcurrent : i + 1 = a.stores.length →
      t.log ++ t.pending = bytesOf entries' ∧ t.data = valuesOf entries')
    (hearlier : i + 1 ≠ a.stores.length → entries' = entries ∧ t.log = a.file) :
    (a.update i t).Holds entries' := by
  obtain ⟨hi, -⟩ := List.getElem?_eq_some_iff.1 hs
  have hself : (a.stores.set i t)[i]? = some t := by simp [hi]
  refine ⟨fun j u hj hu => ?_, fun j u hj hu => ?_, fun j u hj hlast => ?_, fun hnil => ?_⟩
  all_goals simp only [Archive.update, List.length_set] at *
  · by_cases hij : i = j
    · subst hij
      rw [hself, Option.some.injEq] at hj
      exact hopen (hj ▸ hu)
    · exact h.last j u (by rwa [List.getElem?_set_ne hij] at hj) hu
  · by_cases hij : i = j
    · subst hij
      rw [hself, Option.some.injEq] at hj
      exact hj ▸ hwritten (hj ▸ hu)
    · exact h.written j u (by rwa [List.getElem?_set_ne hij] at hj) hu
  · by_cases hij : i = j
    · subst hij
      rw [hself, Option.some.injEq] at hj
      exact hj ▸ hcurrent hlast
    · obtain ⟨rfl, hlog⟩ := hearlier fun hi' => hij (by omega)
      rw [hlog]
      exact h.current j u (by rwa [List.getElem?_set_ne hij] at hj) hlast
  · rw [List.set_eq_nil_iff] at hnil
    rw [hnil] at hi
    exact absurd hi (by simp)

/-- A store that writes some of what is to be written, and may be closed then. -/
theorem Holds.write (h : a.Holds entries) (hs : a.stores[i]? = some s) (count : Nat)
    (hlog : t.log = a.file ++ s.pending.take count) (hpending : t.pending = s.pending.drop count)
    (hdata : t.data = s.data) (hopen : t.isOpen = true → s.isOpen = true)
    (hwritten : t.isOpen = false → t.pending = []) : (a.update i t).Holds entries := by
  refine h.update hs (fun ht => h.last i s hs (hopen ht)) hwritten (fun hlast => ?_)
    fun hlast => ⟨rfl, ?_⟩
  · obtain ⟨hbytes, hvalues⟩ := h.current i s hs hlast
    rw [hlog, hpending, List.append_assoc, List.take_append_drop, hdata]
    exact ⟨hbytes, hvalues⟩
  · -- An earlier store is closed and has nothing left to write.
    have hclosed : s.isOpen = false := by
      cases hs' : s.isOpen with
      | false => rfl
      | true => exact absurd (h.last i s hs hs') hlast
    rw [hlog, h.written i s hs hclosed, List.take_nil, List.append_nil]

/-- When all stores are closed, everything that has been put is in the file. -/
theorem Holds.file_eq (h : a.Holds entries) (hclosed : a.Closed) : a.file = bytesOf entries := by
  cases hlength : a.stores.length with
  | zero =>
    obtain ⟨hfile, rfl⟩ := h.fresh (List.length_eq_zero_iff.1 hlength)
    exact hfile
  | succ n =>
    have hs := List.getElem?_eq_getElem (l := a.stores) (i := n) (by omega)
    obtain ⟨hbytes, -⟩ := h.current n _ hs hlength.symm
    rwa [h.written n _ hs (hclosed _ (List.mem_of_getElem? hs)), List.append_nil] at hbytes

/-- The archive after a store has been opened that has these values. -/
def withStore (a : Archive) (values : Dictionary String) : Archive :=
  { a with
    stores := a.stores ++ [⟨a.file, [], values, true⟩]
    handles := a.handles ++ [a.stores.length] }

/-- **Opening a store succeeds** when the ones before it are closed, and it has the values that have
been put. -/
theorem Holds.call_openFile (h : a.Holds entries) (hclosed : a.Closed) :
    a.call .openFile = some (.done, a.withStore (valuesOf entries)) := by
  have hload := load_bytesOf entries
  rw [← h.file_eq hclosed] at hload
  rw [Archive.call, hload]
  rfl

theorem Holds.withStore (h : a.Holds entries) (hclosed : a.Closed) :
    (a.withStore (valuesOf entries)).Holds entries := by
  let opened : Store := ⟨a.file, [], valuesOf entries, true⟩
  have hcases : ∀ (j : Nat) (u : Store), (a.stores ++ [opened])[j]? = some u →
      a.stores[j]? = some u ∧ j < a.stores.length ∨ u = opened ∧ j = a.stores.length := by
    intro j u hj
    rw [List.getElem?_append] at hj
    split_ifs at hj with hlt
    · exact .inl ⟨hj, hlt⟩
    · have hlength := (List.getElem?_eq_some_iff.1 hj).1
      rw [List.length_singleton] at hlength
      exact .inr ⟨List.mem_singleton.1 (List.mem_of_getElem? hj), by omega⟩
  refine ⟨fun j u hj hu => ?_, fun j u hj hu => ?_, fun j u hj hlast => ?_,
    fun hnil => by simp [Archive.withStore] at hnil⟩
  · rcases hcases j u hj with ⟨hj, -⟩ | ⟨-, rfl⟩
    · rw [hclosed u (List.mem_of_getElem? hj)] at hu
      cases hu
    · simp [Archive.withStore]
  · rcases hcases j u hj with ⟨hj, -⟩ | ⟨rfl, -⟩
    · exact h.written j u hj hu
    · rfl
  · rcases hcases j u hj with ⟨-, hlt⟩ | ⟨rfl, -⟩
    · simp only [Archive.withStore, List.length_append, List.length_singleton] at hlast
      omega
    · exact ⟨(List.append_nil _).trans (h.file_eq hclosed), rfl⟩

theorem Holds.call_put {handle : Nat} {key value : String} {answer : Answer} (h : a.Holds entries)
    (hc : a.call (.put handle key value) = some (answer, b)) :
    b.Holds (entries ++ (Event.put? ⟨.put handle key value, answer⟩).toList) := by
  obtain ⟨i, s, -, hs, hc⟩ := map_store?_eq_some hc
  cases hopen : s.isOpen with
  | false =>
    simp only [Store.put, hopen, Bool.false_eq_true, if_false] at hc
    cases hc
    simpa [Event.put?] using h
  | true =>
    -- Only the current store takes a value, so what it knows of the file is still true.
    have hlast := h.last i s hs hopen
    simp only [Store.put, hopen, if_true] at hc
    cases hc
    refine h.update hs (fun _ => hlast) (fun hc => by simp at hc) (fun _ => ?_)
      fun hne => absurd hlast hne
    obtain ⟨hbytes, hvalues⟩ := h.current i s hs hlast
    simp only [Event.put?, Option.toList_some, bytesOf_append, valuesOf_append]
    rw [← List.append_assoc, hbytes, hvalues]
    exact ⟨rfl, rfl⟩

/-- **Every call keeps what has been put.** -/
theorem Holds.call {c : Call} {answer : Answer} (h : a.Holds entries)
    (hopen : c = .openFile → a.Closed) (hc : a.call c = some (answer, b)) :
    b.Holds (entries ++ (Event.put? ⟨c, answer⟩).toList) := by
  cases c with
  | openFile =>
    rw [h.call_openFile (hopen rfl)] at hc
    cases hc
    simpa [Event.put?] using h.withStore (hopen rfl)
  | put handle key value => exact h.call_put hc
  | clone handle =>
    obtain ⟨i, s, -, -, hc⟩ := map_store?_eq_some hc
    cases hc
    have hput : Event.put? ⟨.clone handle, .done⟩ = none := rfl
    rw [hput, Option.toList_none, List.append_nil]
    exact ⟨h.last, h.written, h.current, h.fresh⟩
  | get handle key =>
    obtain ⟨i, s, -, -, hc⟩ := map_store?_eq_some hc
    cases hc
    simpa [Event.put?] using h
  | size handle =>
    obtain ⟨i, s, -, -, hc⟩ := map_store?_eq_some hc
    cases hc
    simpa [Event.put?] using h
  | flush handle =>
    obtain ⟨i, s, -, hs, hc⟩ := map_store?_eq_some hc
    cases hc
    have hflush := h.write (t := Store.flush { s with log := a.file }) hs s.pending.length
      (by simp [Store.flush]) (by simp [Store.flush]) rfl id fun _ => rfl
    simpa [Event.put?] using hflush
  | close handle =>
    obtain ⟨i, s, -, hs, hc⟩ := map_store?_eq_some hc
    cases hc
    have hclose := h.write (t := Store.close { s with log := a.file }) hs s.pending.length
      (by simp [Store.close, Store.flush]) (by simp [Store.close, Store.flush]) rfl
      (fun hopen => absurd hopen Bool.false_ne_true) fun _ => rfl
    simpa [Event.put?] using hclose

/-- The stores are closed when calls have closed them. -/
theorem Run.closed {events : List Event} (h : Run events a) (hcalls : a.ClosedByCalls events) :
    a.Closed := by
  intro s hs
  obtain ⟨i, hi⟩ := List.mem_iff_getElem?.1 hs
  exact (h.isOpen_eq_false_iff hi).2 (hcalls i (List.getElem?_eq_some_iff.1 hi).1)

/-- **At any time of a run**, the archive holds the values of the entries that have been put. -/
theorem Run.holds {events : List Event} (h : Run events a) : a.Holds (entriesPut events) := by
  induction h with
  | start => exact holds_empty
  | call hrun hopen hc ih =>
    rw [entriesPut_append]
    exact ih.call (fun hfile => hrun.closed (hopen hfile)) hc
  | spill count _ hs ih =>
    exact ih.write hs count rfl rfl rfl id fun hc => by simp [ih.written _ _ hs hc]

/-! ### What the calls answer -/

/-- **The store is one map in which the last value counts**, over all sessions.  At any time of a
run, a store can be opened if calls have closed the ones before it; through any handle of the
current store, a key has the value that was put under it last, and the size is the number of keys
that were put; and a value can be put through a handle until a call closes its store, through that
handle or another, and nothing changes when one is put later. -/
theorem Run.keeps_map {events : List Event} (h : Run events a) :
    (a.ClosedByCalls events → ∃ b, a.call .openFile = some (.done, b)) ∧
      (∀ handle i, a.handles[handle]? = some i → i + 1 = a.stores.length →
        (∀ key, a.call (.get handle key) =
          some (.value (lastValue? (entriesPut events) key), a)) ∧
        a.call (.size handle) =
          some (.count ((entriesPut events).map Entry.key).toFinset.card, a)) ∧
      ∀ handle i, a.handles[handle]? = some i → ∀ key value,
        (a.ClosedBy events i → a.call (.put handle key value) = some (.failed .closed, a)) ∧
        (¬ a.ClosedBy events i → ∃ b, a.call (.put handle key value) = some (.done, b)) := by
  have hholds := h.holds
  refine ⟨fun hcalls => ?_, fun handle i hhandle hlast => ?_, fun handle i hhandle key value => ?_⟩
  · exact ⟨_, hholds.call_openFile (h.closed hcalls)⟩
  · have hs := List.getElem?_eq_getElem (l := a.stores) (i := i) (by omega)
    obtain ⟨-, hvalues⟩ := hholds.current i _ hs hlast
    have hstore := store?_of_getElem? hhandle hs
    refine ⟨fun key => ?_, ?_⟩
    · simp [Archive.call, hstore, Store.get?, hvalues, get?_valuesOf]
    · simp [Archive.call, hstore, Store.size, hvalues, size_valuesOf]
  · have hs := List.getElem?_eq_getElem (h.accounted.stored handle i hhandle)
    have hstore := store?_of_getElem? hhandle hs
    rw [← h.isOpen_eq_false_iff hs]
    refine ⟨fun hclosed => ?_, fun hopen => ?_⟩
    · simp [Archive.call, hstore, Store.put, hclosed]
    · simp [Archive.call, hstore, Store.put, hopen]

/-- Two sessions: a value is put in place of another, and it is there when the file is opened
again.  The first store takes no more values after a call through its other handle has closed it,
though nothing was left to write then; the second one does. -/
theorem keeps_map_two_sessions :
    ∃ a : Archive, Run [⟨.openFile, .done⟩, ⟨.put 0 "a" "1", .done⟩, ⟨.clone 0, .done⟩,
        ⟨.put 1 "a" "2", .done⟩, ⟨.flush 1, .done⟩, ⟨.close 0, .done⟩, ⟨.openFile, .done⟩] a ∧
      a.call (.get 2 "a") = some (.value (some "2"), a) ∧ a.call (.size 2) = some (.count 1, a) ∧
      a.call (.put 1 "b" "3") = some (.failed .closed, a) ∧
      ∃ b, a.call (.put 2 "b" "3") = some (.done, b) := by
  let first : List Event := [⟨.openFile, .done⟩, ⟨.put 0 "a" "1", .done⟩, ⟨.clone 0, .done⟩,
    ⟨.put 1 "a" "2", .done⟩, ⟨.flush 1, .done⟩, ⟨.close 0, .done⟩]
  have hfirst : ∃ a, Run first a ∧ a.handles = [0, 0] ∧ a.stores.length = 1 := by
    have hopened : Run [⟨.openFile, .done⟩] _ := .call .start (fun _ => nofun) rfl
    have hput := Run.call (c := .put 0 "a" "1") hopened nofun rfl
    have hclone := Run.call (c := .clone 0) hput nofun rfl
    have hagain := Run.call (c := .put 1 "a" "2") hclone nofun rfl
    have hflush := Run.call (c := .flush 1) hagain nofun rfl
    exact ⟨_, .call (c := .close 0) hflush nofun rfl, rfl, rfl⟩
  obtain ⟨a, hrun, hhandles, hlength⟩ := hfirst
  have hcalls : a.ClosedByCalls first := by
    intro i hi
    obtain rfl : i = 0 := by omega
    exact ⟨0, by simp [hhandles], by simp [first]⟩
  have hsecond := hrun.call (fun _ => hcalls) (hrun.holds.call_openFile (hrun.closed hcalls))
  generalize hb : a.withStore (valuesOf (entriesPut first)) = b at hsecond
  have hhandles : b.handles = [0, 0, 1] := by simp [← hb, withStore, hhandles, hlength]
  have hlength : b.stores.length = 2 := by simp [← hb, withStore, hlength]
  obtain ⟨-, hcurrent, hput⟩ := hsecond.keeps_map
  obtain ⟨hget, hsize⟩ := hcurrent 2 1 (by rw [hhandles]; rfl) hlength.symm
  have hclosed : b.ClosedBy (first ++ [⟨.openFile, .done⟩]) 0 :=
    ⟨0, by simp [hhandles], by simp [first]⟩
  have hopen : ¬ b.ClosedBy (first ++ [⟨.openFile, .done⟩]) 1 := by
    rintro ⟨handle, hhandle, hclose⟩
    obtain rfl : handle = 0 := by simpa [first] using hclose
    simp [hhandles] at hhandle
  exact ⟨b, hsecond, hget "a", hsize, (hput 1 0 (by rw [hhandles]; rfl) "b" "3").1 hclosed,
    (hput 2 1 (by rw [hhandles]; rfl) "b" "3").2 hopen⟩

end Archive

end RowSieve

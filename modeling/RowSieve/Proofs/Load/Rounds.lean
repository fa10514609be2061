import Mathlib.Algebra.BigOperators.Group.Finset.Piecewise
import Mathlib.Algebra.BigOperators.Group.Finset.Sigma
import RowSieve.Load.Trial
import RowSieve.Proofs.Decimal.Digits
import RowSieve.Proofs.Store.Sessions

/-!
# Load tests count rounds

While a worker of a load test is between the two operations of a round, the others go on in any
order.  How far it has got depends only on how many turns it has had (`Worker.after`), and the store
has the keys of the rounds that have been begun (`Trial.Accounts`): one turn keeps this
(`Accounts.step`), and so do all turns of a schedule (`Accounts.run`).

No two rounds share a key (`Trial.key_inj`), so there are as many keys as rounds.
`Trial.keys_count_rounds` says that the counters agree with them when the workers are done.
-/

namespace RowSieve

open Finset

variable {i j workers : Nat} {turns : Nat → Nat}

/-- A worker that has had so many turns.  In the first of two it begins a round, and in the second
it ends it. -/
def Worker.after (index turns : Nat) : Worker :=
  ⟨(turns + 1) / 2, if turns % 2 = 0 then none else some (Trial.key index (turns / 2))⟩

theorem Worker.after_even (index round : Nat) : after index (2 * round) = ⟨round, none⟩ := by
  have hrounds : (2 * round + 1) / 2 = round := by omega
  simp [after, hrounds]

theorem Worker.after_odd (index round : Nat) :
    after index (2 * round + 1) = ⟨round + 1, some (Trial.key index round)⟩ := by
  have hrounds : (2 * round + 1 + 1) / 2 = round + 1 := by omega
  have hround : (2 * round + 1) / 2 = round := by omega
  simp [after, hrounds, hround]

namespace Trial

/-! ### Keys -/

theorem toList_key (worker round : Nat) : (key worker round).toList =
    'w' :: (Nat.toDigits 10 worker ++ '-' :: Nat.toDigits 10 round) := by
  simp [key, toString, Nat.toList_repr]

theorem hyphen_not_mem_toDigits (n : Nat) : '-' ∉ Nat.toDigits 10 n := by
  intro hmem
  have hdigit := List.all_eq_true.1 (Decimal.all_isDigit_toDigits n) _ hmem
  exact absurd hdigit (by decide)

theorem toDigits_inj {m n : Nat} (h : Nat.toDigits 10 m = Nat.toDigits 10 n) : m = n := by
  rw [← Decimal.digitsValue_toDigits m, h, Decimal.digitsValue_toDigits]

/-- **No two rounds share a key**, whichever workers they belong to. -/
theorem key_inj {r s : Nat} (h : key i r = key j s) : i = j ∧ r = s := by
  have hlist := congrArg String.toList h
  rw [toList_key, toList_key, List.cons.injEq] at hlist
  -- No digit is a hyphen, so the hyphens of the two keys are at the same place.
  obtain ⟨hworker, -, hround⟩ := (List.append_cons_inj_of_notMem (hyphen_not_mem_toDigits i)
    (hyphen_not_mem_toDigits r)).1 hlist.2
  exact ⟨toDigits_inj hworker, toDigits_inj hround⟩

/-! ### Turns -/

/-- The keys of the rounds that workers have begun. -/
def keysBegun (workers : Nat) (turns : Nat → Nat) : Finset String :=
  ((range workers).sigma fun i => range ((turns i + 1) / 2)).image fun p => key p.1 p.2

theorem mem_keysBegun {k : String} :
    k ∈ keysBegun workers turns ↔ ∃ i < workers, ∃ r < (turns i + 1) / 2, key i r = k := by
  simp [keysBegun, and_assoc]

theorem card_keysBegun (workers : Nat) (turns : Nat → Nat) :
    (keysBegun workers turns).card = ∑ i ∈ range workers, (turns i + 1) / 2 := by
  have hinj : Function.Injective fun p : (_ : Nat) × Nat => key p.1 p.2 := by
    rintro ⟨i, r⟩ ⟨j, s⟩ h
    obtain ⟨rfl, rfl⟩ := key_inj h
    rfl
  rw [keysBegun, card_image_of_injective _ hinj, card_sigma]
  simp

/-- What the workers of a load test have done after their turns. -/
structure Accounts (t : Trial) (workers : Nat) (turns : Nat → Nat) : Prop where
  /-- Values can be put. -/
  isOpen : t.store.isOpen = true
  /-- Each worker is where its own turns have brought it. -/
  worker : ∀ i, t.workers[i]? = if i < workers then some (.after i (turns i)) else none
  /-- The store has the value under the keys of all rounds that have been begun. -/
  get? : ∀ k, t.store.get? k = if k ∈ keysBegun workers turns then some t.value else none
  /-- A round that has been ended counts as put and as read back, and nothing has failed. -/
  counters : t.counters =
    ⟨∑ i ∈ range workers, turns i / 2, ∑ i ∈ range workers, turns i / 2, 0⟩

variable {t : Trial} {turns' : Nat → Nat} {r n : Nat} {w : Worker}

theorem keysBegun_congr (h : ∀ i < workers, (turns i + 1) / 2 = (turns' i + 1) / 2) :
    keysBegun workers turns = keysBegun workers turns' := by
  ext k
  rw [mem_keysBegun, mem_keysBegun]
  exact exists_congr fun i => and_congr_right fun hi => by rw [h i hi]

theorem keysBegun_update_even (hi : i < workers) (h : turns i = 2 * r) :
    keysBegun workers (Function.update turns i (2 * r + 1)) =
      insert (key i r) (keysBegun workers turns) := by
  ext k
  rw [mem_insert, mem_keysBegun, mem_keysBegun]
  constructor
  · rintro ⟨j, hj, s, hs, rfl⟩
    by_cases hji : j = i
    · subst hji
      rw [Function.update_self] at hs
      rcases Nat.lt_or_eq_of_le (show s ≤ r by omega) with hlt | rfl
      · exact .inr ⟨j, hj, s, by omega, rfl⟩
      · exact .inl rfl
    · rw [Function.update_of_ne hji] at hs
      exact .inr ⟨j, hj, s, hs, rfl⟩
  · rintro (rfl | ⟨j, hj, s, hs, rfl⟩)
    · exact ⟨i, hi, r, by rw [Function.update_self]; omega, rfl⟩
    · refine ⟨j, hj, s, ?_, rfl⟩
      by_cases hji : j = i
      · subst hji
        rw [Function.update_self]
        omega
      · rwa [Function.update_of_ne hji]

theorem sum_update (hi : i < workers) (f turns : Nat → Nat) (n : Nat) :
    ∑ j ∈ range workers, f (Function.update turns i n j) + f (turns i) =
      ∑ j ∈ range workers, f (turns j) + f n := by
  have hmem : i ∈ range workers := mem_range.2 hi
  have hothers : ∑ j ∈ (range workers).erase i, f (Function.update turns i n j) =
      ∑ j ∈ (range workers).erase i, f (turns j) :=
    sum_congr rfl fun j hj => by rw [Function.update_of_ne (ne_of_mem_erase hj)]
  rw [← add_sum_erase _ _ hmem, ← add_sum_erase _ _ hmem, Function.update_self, hothers]
  omega

namespace Accounts

theorem set_worker (h : t.Accounts workers turns) (hi : i < workers) (hw : w = .after i n)
    (j : Nat) : (t.workers.set i w)[j]? =
      if j < workers then some (.after j (Function.update turns i n j)) else none := by
  have hlength : i < t.workers.length := by
    have hold := h.worker i
    rw [if_pos hi] at hold
    exact (List.getElem?_eq_some_iff.1 hold).1
  by_cases hji : i = j
  · subst hji
    rw [List.getElem?_set_self hlength, if_pos hi, Function.update_self, hw]
  · rw [List.getElem?_set_ne hji, h.worker j, Function.update_of_ne (Ne.symm hji)]

/-- Beginning a round puts its key beside the others. -/
theorem beginRound (h : t.Accounts workers turns) (hi : i < workers) (hturns : turns i = 2 * r) :
    (t.beginRound i ⟨r, none⟩).Accounts workers (Function.update turns i (2 * r + 1)) := by
  have hput : t.store.put (key i r) t.value = .ok { t.store with
      pending := t.store.pending ++ Store.entryBytes (key i r) t.value
      data := t.store.data.insert (key i r) t.value } := if_pos h.isOpen
  have hsum := sum_update hi (· / 2) turns (2 * r + 1)
  simp only [Trial.beginRound, hput]
  refine ⟨h.isOpen, h.set_worker hi (Worker.after_odd i r).symm, fun k => ?_, ?_⟩
  · rw [keysBegun_update_even hi hturns, Store.get?, Dictionary.get?_insert]
    by_cases hk : k = key i r
    · simp [hk]
    · have hold := h.get? k
      rw [Store.get?] at hold
      simp [hk, hold]
  · -- A round that has only been begun is not counted yet.
    have hsame : ∑ j ∈ range workers, Function.update turns i (2 * r + 1) j / 2 =
        ∑ j ∈ range workers, turns j / 2 := by omega
    rw [hsame]
    exact h.counters

/-- Ending a round finds the value under its key. -/
theorem endRound (h : t.Accounts workers turns) (hi : i < workers)
    (hturns : turns i = 2 * r + 1) : (t.endRound i ⟨r + 1, some (key i r)⟩ (key i r)).Accounts
      workers (Function.update turns i (2 * r + 2)) := by
  have hbegun : key i r ∈ keysBegun workers turns := mem_keysBegun.2 ⟨i, hi, r, by omega, rfl⟩
  have hread : t.store.get? (key i r) = some t.value := by rw [h.get?, if_pos hbegun]
  have hsum := sum_update hi (· / 2) turns (2 * r + 2)
  have hafter : (⟨r + 1, none⟩ : Worker) = .after i (2 * r + 2) :=
    (Worker.after_even i (r + 1)).symm
  simp only [Trial.endRound, hread, if_true]
  refine ⟨h.isOpen, h.set_worker hi hafter, fun k => ?_, ?_⟩
  · -- The key of the round was there already.
    have hkeys : keysBegun workers (Function.update turns i (2 * r + 2)) =
        keysBegun workers turns := by
      refine keysBegun_congr fun j _ => ?_
      by_cases hj : j = i
      · subst hj
        rw [Function.update_self]
        omega
      · rw [Function.update_of_ne hj]
    rw [hkeys]
    exact h.get? k
  · have hmore : ∑ j ∈ range workers, Function.update turns i (2 * r + 2) j / 2 =
        ∑ j ∈ range workers, turns j / 2 + 1 := by omega
    simp [h.counters, Counters.addWrite, Counters.addRead, hmore]

/-- Only the turns of the workers that there are count. -/
theorem congr (h : t.Accounts workers turns) (hturns : ∀ i < workers, turns i = turns' i) :
    t.Accounts workers turns' := by
  have hsum : ∑ i ∈ range workers, turns' i / 2 = ∑ i ∈ range workers, turns i / 2 :=
    sum_congr rfl fun i hi => by rw [hturns i (mem_range.1 hi)]
  have hkeys : keysBegun workers turns' = keysBegun workers turns :=
    keysBegun_congr fun i hi => by rw [hturns i hi]
  refine ⟨h.isOpen, fun i => ?_, hkeys ▸ h.get?, hsum ▸ h.counters⟩
  rw [h.worker i]
  split_ifs with hi
  · rw [hturns i hi]
  · rfl

/-- **One turn** keeps the accounts, whoever has it. -/
theorem step (h : t.Accounts workers turns) (i : Nat) :
    (t.step i).Accounts workers (Function.update turns i (turns i + 1)) := by
  have hworker := h.worker i
  by_cases hi : i < workers
  · rw [if_pos hi] at hworker
    rw [Trial.step, hworker]
    -- Behind an even number of turns the worker is between two rounds, behind an odd one inside.
    obtain ⟨r, heven | hodd⟩ := Nat.even_or_odd' (turns i)
    · rw [heven, Worker.after_even]
      exact h.beginRound hi heven
    · rw [hodd, Worker.after_odd]
      exact h.endRound hi hodd
  · -- There is no such worker, so nothing happens.
    rw [if_neg hi] at hworker
    rw [Trial.step, hworker]
    exact h.congr fun j hj => (Function.update_of_ne (by omega) _ _).symm

/-- **Any number of turns** keep the accounts, in whatever order the workers have them. -/
theorem run (h : t.Accounts workers turns) (schedule : List Nat) :
    (t.run schedule).Accounts workers fun i => turns i + schedule.count i := by
  induction schedule generalizing t turns with
  | nil => exact h
  | cons i schedule ih =>
    refine (ih (h.step i)).congr fun j _ => ?_
    by_cases hj : j = i
    · subst hj
      rw [Function.update_self, List.count_cons_self]
      omega
    · rw [Function.update_of_ne hj, List.count_cons_of_ne (Ne.symm hj)]

/-- There are as many keys as rounds that have been begun. -/
theorem size_eq (h : t.Accounts workers turns) :
    t.store.size = ∑ i ∈ range workers, (turns i + 1) / 2 := by
  have hnames : t.store.data.names.toFinset = keysBegun workers turns := by
    ext k
    have hk := h.get? k
    rw [Store.get?] at hk
    rw [List.mem_toFinset, Dictionary.mem_names_iff, hk]
    simp
  rw [Store.size, ← Dictionary.card_names, hnames, card_keysBegun]

/-- The value that a worker has to read back is there. -/
theorem get?_written (h : t.Accounts workers turns) {k : String} (hw : t.workers[i]? = some w)
    (hk : w.written = some k) : t.store.get? k = some t.value := by
  rw [h.worker i] at hw
  split_ifs at hw with hi
  obtain rfl := Option.some.inj hw
  rw [Worker.after] at hk
  split_ifs at hk with heven
  obtain rfl := Option.some.inj hk
  have hbegun : key i (turns i / 2) ∈ keysBegun workers turns :=
    mem_keysBegun.2 ⟨i, hi, turns i / 2, by omega, rfl⟩
  rw [h.get?, if_pos hbegun]

end Accounts

theorem value_step (t : Trial) (i : Nat) : (t.step i).value = t.value := by
  unfold step
  split
  · rfl
  · split
    · simp only [beginRound]
      split <;> rfl
    · rfl

theorem value_run (t : Trial) (schedule : List Nat) : (t.run schedule).value = t.value := by
  induction schedule generalizing t with
  | nil => rfl
  | cons i schedule ih => exact (ih (t.step i)).trans (t.value_step i)

theorem accounts_start {store : Store} (h : Store.load [] = .ok store) (workers size : Nat) :
    (start store workers size).Accounts workers fun _ => 0 := by
  obtain ⟨hdata, -, -, hopen⟩ := Store.load_eq_ok_iff.1 h
  have hempty : Dictionary.empty = store.data := Except.ok.inj hdata
  refine ⟨hopen, fun i => ?_, fun k => ?_, by simp [start, Counters.zero]⟩
  · rw [start, List.getElem?_replicate]
    rfl
  · have hnone : store.get? k = none := by
      rw [Store.get?, ← hempty, Dictionary.get?_empty]
    have hkeys : k ∉ keysBegun workers fun _ => 0 := by simp [mem_keysBegun]
    rw [if_neg hkeys]
    exact hnone

/-! ### Schedules -/

/-- **A load test counts its rounds.**  However the workers take turns on a store that has been
loaded from an empty log, nothing fails at any time, and what a worker reads back is the value that
it has put.  When each of them has ended its rounds, then the keys in the closed store are as many
as the rounds of all workers, and so are the values that have been put and those that have been read
back. -/
theorem keys_count_rounds {store : Store} (hstore : Store.load [] = .ok store)
    {schedule : List Nat} {rounds : Nat → Nat}
    (hrounds : ∀ i < workers, schedule.count i = 2 * rounds i) (size : Nat) :
    (∀ front, front <+: schedule →
      ((start store workers size).run front).counters.errors = 0 ∧
      ∀ (i : Nat) (w : Worker) (key : String),
        ((start store workers size).run front).workers[i]? = some w → w.written = some key →
        ((start store workers size).run front).store.get? key =
          some (String.ofList (List.replicate size 'x'))) ∧
    ((start store workers size).run schedule).finish.store.size =
      ∑ i ∈ range workers, rounds i ∧
    ((start store workers size).run schedule).finish.counters =
      ⟨∑ i ∈ range workers, rounds i, ∑ i ∈ range workers, rounds i, 0⟩ := by
  have hstart := accounts_start hstore workers size
  refine ⟨fun front _ => ⟨?_, fun i w key hw hkey => ?_⟩, ?_, ?_⟩
  · rw [(hstart.run front).counters]
  · rw [(hstart.run front).get?_written hw hkey, value_run]
    rfl
  · refine (hstart.run schedule).size_eq.trans (sum_congr rfl fun i hi => ?_)
    rw [hrounds i (mem_range.1 hi)]
    omega
  · have hsum : ∑ i ∈ range workers, (0 + schedule.count i) / 2 =
        ∑ i ∈ range workers, rounds i := by
      refine sum_congr rfl fun i hi => ?_
      rw [hrounds i (mem_range.1 hi)]
      omega
    rw [← hsum]
    exact (hstart.run schedule).counters

/-- Two workers, the first of which ends its round while the second is in the middle of its own. -/
theorem keys_count_rounds_interleaved :
    ∃ store, Store.load [] = .ok store ∧
      ((start store 2 3).run [0, 1]).store.get? "w0-0" = some "xxx" ∧
      ((start store 2 3).run [0, 1, 0, 1, 1, 1]).finish.store.size = 3 := by
  have hstore : Store.load [] = .ok ⟨[], [], .empty, true⟩ := rfl
  have hrounds : ∀ i < 2, [0, 1, 0, 1, 1, 1].count i = 2 * (i + 1) := by decide
  obtain ⟨hreads, hkeys, -⟩ := keys_count_rounds hstore hrounds 3
  exact ⟨_, hstore, (hreads [0, 1] (by decide)).2 0 ⟨1, some "w0-0"⟩ _ rfl rfl, hkeys⟩

end Trial

end RowSieve

import RowSieve.Batch.Network

/-!
# Moves of a network

`Network.Move` says once what a step of a network can do, one case for each thing that the feeder, a
worker or the printer does, with what must hold for it (`Network.Step.move`).

From the moves comes what holds at any time (`Network.Orderly`): a worker has left only if there is
nothing more for it, and the printer has stopped only if nothing more will come.  The exceptions are
those of a network that is `Network.Interrupted`: the program broke down on a record, or as many
rows are printed as the program asks for.
-/

namespace RowSieve

/-- A worker that waits: for a record or the sign, or for what is left. -/
def Hand.waiting : (drains : Bool) → Hand
  | false => idle
  | true => draining

/-- The worker has heeded the sign. -/
def Hand.drains : Hand → Bool
  | draining => true
  | reporting _ drains => drains
  | _ => false

@[simp] theorem Hand.hasLeft_waiting (drains : Bool) : (waiting drains).hasLeft = false := by
  cases drains <;> rfl

@[simp] theorem Hand.drains_waiting (drains : Bool) : (waiting drains).drains = drains := by
  cases drains <;> rfl

theorem Feeder.hasSigned_of_hasClosed {f : Feeder} (h : f.hasClosed = true) :
    f.hasSigned = true := by
  cases f <;> simp_all [hasClosed, hasSigned]

namespace Network

variable {job : Job} {header : List String} {s t : Network} {index : Nat} {hand : Hand}

/-! ### What a step does -/

/-- The network with another worker in a place. -/
def put (s : Network) (index : Nat) (hand : Hand) : Network :=
  { s with workers := s.workers.set index hand }

/-- What a step can do. -/
inductive Move (job : Job) (header : List String) (s : Network) : Network → Prop
  /-- The feeder reads a record. -/
  | read {r : Record} {entries : List (Except LineError Record)} :
    s.feeder = .reading → s.entries = .ok r :: entries →
    Move job header s
      { s with entries := entries, records := s.records + 1, feeder := .holding r }
  /-- The feeder reads an entry that is no record. -/
  | skip {e : LineError} {entries : List (Except LineError Record)} :
    s.feeder = .reading → s.entries = .error e :: entries →
    Move job header s { s with entries := entries, skipped := s.skipped + 1 }
  /-- The feeder is at the end of the table and gives the sign. -/
  | sign : s.feeder = .reading → s.entries = [] → Move job header s { s with feeder := .closing }
  /-- The feeder puts its record into the queue. -/
  | push {r : Record} : s.feeder = .holding r →
    Move job header s { s with queue := s.queue ++ [r], feeder := .reading }
  /-- The feeder gives its record up, since no worker is left. -/
  | giveUp {r : Record} : s.feeder = .holding r → s.deserted = true →
    Move job header s { s with feeder := .closing }
  /-- The feeder closes the queue. -/
  | close : s.feeder = .closing → Move job header s { s with feeder := .gone }
  /-- A worker heeds the sign. -/
  | heed {i : Nat} : s.workers[i]? = some .idle → s.feeder.hasSigned = true →
    Move job header s (s.put i .draining)
  /-- A worker takes a record and puts it through the program. -/
  | take {i : Nat} (drains : Bool) {r : Record} {queue : List Record} :
    s.workers[i]? = some (.waiting drains) → s.queue = r :: queue →
    Move job header s { s.put i (handle job header r drains) with queue := queue }
  /-- A worker leaves, since the queue is empty and nothing more will come. -/
  | leave {i : Nat} (drains : Bool) : s.workers[i]? = some (.waiting drains) → s.queue = [] →
    (drains = false → s.feeder.hasClosed = true) → Move job header s (s.put i .gone)
  /-- A worker hands a report over. -/
  | report {i : Nat} {report : Report} {drains : Bool} :
    s.workers[i]? = some (.reporting report drains) → s.listening = true →
    Move job header s { s.put i (.waiting drains) with reports := s.reports ++ [report] }
  /-- A worker leaves with its report, since the printer has taken its queue down. -/
  | withhold {i : Nat} {report : Report} {drains : Bool} :
    s.workers[i]? = some (.reporting report drains) → s.listening = false →
    Move job header s (s.put i .gone)
  /-- The printer prints a report. -/
  | print {report : Report} {reports : List Report} :
    s.printing = true → s.reports = report :: reports →
    Move job header s
      { s with
        reports := reports
        printout := s.printout.add job report
        printing := !(s.printout.add job report).full job }
  /-- The printer stops, since nothing more will come. -/
  | stop : s.printing = true → s.reports = [] → s.deserted = true →
    Move job header s { s with printing := false }
  /-- The printer has stopped and takes its queue down. -/
  | hangUp : s.printing = false → s.listening = true →
    Move job header s { s with listening := false }

theorem move_of_feed (h : s.feed = some t) : Move job header s t := by
  unfold feed at h
  split at h
  next hf =>
    split at h
    next he => cases h; exact .sign hf he
    next he => cases h; exact .read hf he
    next he => cases h; exact .skip hf he
  next hf =>
    split at h
    next hd => cases h; exact .giveUp hf hd
    next =>
      split at h
      · cases h; exact .push hf
      · cases h
  next hf => cases h; exact .close hf
  next => cases h

theorem move_of_work {heeds : Bool} (h : s.work job header index heeds = some t) :
    Move job header s t := by
  unfold work at h
  split at h
  next hw =>
    split at h
    · split at h
      next hs => cases h; exact .heed hw hs
      next => cases h
    · split at h
      next hq => cases h; exact .take false hw hq
      next hq =>
        split at h
        next hc => cases h; exact .leave false hw hq fun _ => hc
        next => cases h
  next hw =>
    split at h
    next hq => cases h; exact .take true hw hq
    next hq => cases h; exact .leave true hw hq nofun
  next report drains hw =>
    split at h
    next hp => cases h; exact .withhold hw (by simpa using hp)
    next hp =>
      split at h
      next =>
        cases h
        have hwaiting : (if drains = true then Hand.draining else .idle) = .waiting drains := by
          cases drains <;> rfl
        rw [hwaiting]
        exact .report hw (by simpa using hp)
      next => cases h
  next => cases h

theorem move_of_print (h : s.print job = some t) : Move job header s t := by
  unfold print at h
  split at h
  next hp =>
    split at h
    next hr => cases h; exact .print hp hr
    next hr =>
      split at h
      next hd => cases h; exact .stop hp hr hd
      next => cases h
  next hp =>
    split at h
    next hl => cases h; exact .hangUp (by simpa using hp) hl
    next => cases h

/-- **Every step is one of the moves.** -/
theorem Step.move (h : Step job header s t) : Move job header s t := by
  cases h with
  | feed h => exact move_of_feed h
  | work index heeds h => exact move_of_work h
  | print h => exact move_of_print h

/-! ### Workers -/

theorem hasLeft_of_deserted (h : s.deserted = true) (hw : hand ∈ s.workers) :
    hand.hasLeft = true :=
  List.all_eq_true.1 h hand hw

/-- Somebody is still there. -/
theorem deserted_eq_false (h : s.workers[index]? = some hand) (hw : hand.hasLeft = false) :
    s.deserted = false := by
  rw [Bool.eq_false_iff]
  intro hd
  rw [hasLeft_of_deserted hd (List.mem_of_getElem? h)] at hw
  cases hw

/-- A worker stays unless it is the one that is replaced. -/
theorem mem_put {old new : Hand} (h : s.workers[index]? = some old) (hne : hand ≠ old)
    (hw : hand ∈ s.workers) : hand ∈ (s.put index new).workers := by
  obtain ⟨i, hi⟩ := List.mem_iff_getElem?.1 hw
  refine List.mem_iff_getElem?.2 ⟨i, ?_⟩
  have hi' : index ≠ i := by
    rintro rfl
    rw [h] at hi
    exact hne (Option.some.inj hi).symm
  rw [put, List.getElem?_set_ne hi', hi]

theorem mem_or_eq_of_mem_put {new : Hand} (h : hand ∈ (s.put index new).workers) :
    hand ∈ s.workers ∨ hand = new :=
  List.mem_or_eq_of_mem_set h

/-! ### What holds at any time -/

/-- Some records may come to nothing: the program broke down on one, or enough rows are printed. -/
def Interrupted (job : Job) (s : Network) : Prop := s.Crashed ∨ s.printout.full job = true

theorem not_interrupted (hcrash : ¬ s.Crashed) (hfull : s.printout.full job = false) :
    ¬ s.Interrupted job := by
  rintro (hc | hf)
  · exact hcrash hc
  · rw [hfull] at hf
    cases hf

/-- What holds at any time. -/
structure Orderly (job : Job) (s : Network) : Prop where
  /-- Nobody joins the workers. -/
  staffed : s.workers.length = max 1 job.workers
  /-- The printer goes on while rows are wanted. -/
  printing : s.printing = true → s.printout.full job = false
  /-- The printer stops when enough rows are printed, or when nothing more will come. -/
  stopped : s.printing = false →
    s.printout.full job = true ∨ s.deserted = true ∧ s.reports = []
  /-- The printer takes its queue down when it has stopped. -/
  hungUp : s.listening = false → s.printing = false
  /-- A worker leaves when enough rows are printed, or when nothing more will come. -/
  left : .gone ∈ s.workers →
    s.printout.full job = true ∨ s.feeder.hasSigned = true ∧ s.queue = []
  /-- Only a sign that was given is heeded. -/
  heeded : ∀ hand ∈ s.workers, hand.drains = true → s.feeder.hasSigned = true
  /-- The sign is given at the end of the table. -/
  signed : s.feeder.hasSigned = true → s.entries = [] ∨ s.Interrupted job

theorem orderly_start (job : Job) (table : Table) : (start job table).Orderly job where
  staffed := List.length_replicate
  printing h := by simpa [start] using h
  stopped h := .inl (by simpa [start] using h)
  hungUp h := by simp [start] at h
  left h := by simp [start] at h
  heeded hand hw hd := by
    rw [List.eq_of_mem_replicate hw] at hd
    cases hd
  signed h := by simp [start, Feeder.hasSigned] at h

/-- Before the sign is given, a worker leaves only when enough rows are printed. -/
theorem Orderly.full_of_gone (h : s.Orderly job) (hf : s.feeder.hasSigned = false)
    (hg : .gone ∈ s.workers) : s.printout.full job = true := by
  rcases h.left hg with hfull | ⟨hs, -⟩
  · exact hfull
  · rw [hf] at hs
    cases hs

/-- Before the sign is given, no worker heeds it. -/
theorem Orderly.drains_eq_false (h : s.Orderly job) (hf : s.feeder.hasSigned = false)
    (hw : hand ∈ s.workers) : hand.drains = false := by
  rw [Bool.eq_false_iff]
  intro hd
  rw [h.heeded hand hw hd] at hf
  cases hf

/-- Before the sign is given, all workers leave only if the network is interrupted. -/
theorem Orderly.interrupted_of_deserted (h : s.Orderly job) (hd : s.deserted = true)
    (hf : s.feeder.hasSigned = false) : s.Interrupted job := by
  have hne : s.workers ≠ [] := by
    intro hnil
    have := h.staffed
    rw [hnil, List.length_nil] at this
    omega
  obtain ⟨hand, hands, hcons⟩ := List.exists_cons_of_ne_nil hne
  have hw : hand ∈ s.workers := by simp [hcons]
  have hleft := hasLeft_of_deserted hd hw
  cases hand with
  | crashed => exact .inl hw
  | gone => exact .inr (h.full_of_gone hf hw)
  | idle => cases hleft
  | draining => cases hleft
  | reporting => cases hleft

/-- When the printer has stopped and somebody is still there, enough rows are printed. -/
theorem Orderly.full_of_stopped (h : s.Orderly job) (hp : s.printing = false)
    (hd : s.deserted = false) : s.printout.full job = true := by
  rcases h.stopped hp with hfull | ⟨hd', -⟩
  · exact hfull
  · rw [hd] at hd'
    cases hd'

/-- Whatever a worker does, the others go on as they were. -/
theorem Orderly.put {new : Hand} (h : s.Orderly job) (hw : s.workers[index]? = some hand)
    (hhand : hand.hasLeft = false)
    (hgone : new = .gone → s.printout.full job = true ∨ s.feeder.hasSigned = true ∧ s.queue = [])
    (hdrains : new.drains = true → s.feeder.hasSigned = true) : (s.put index new).Orderly job where
  staffed := by simpa [Network.put] using h.staffed
  printing := h.printing
  stopped hp := .inl (h.full_of_stopped hp (deserted_eq_false hw hhand))
  hungUp := h.hungUp
  left hg := by
    rcases mem_or_eq_of_mem_put hg with hg | hg
    · exact h.left hg
    · exact hgone hg.symm
  heeded hand' hw' hd := by
    rcases mem_or_eq_of_mem_put hw' with hw' | rfl
    · exact h.heeded hand' hw' hd
    · exact hdrains hd
  signed hs := by
    rcases h.signed hs with he | hc | hfull
    · exact .inl he
    · exact .inr (.inl (mem_put hw (by rintro rfl; cases hhand) hc))
    · exact .inr (.inr hfull)

theorem handle_ne_gone (r : Record) (drains : Bool) : handle job header r drains ≠ .gone := by
  unfold handle
  split <;> simp

theorem drains_of_handle {r : Record} {drains : Bool}
    (h : (handle job header r drains).drains = true) : drains = true := by
  unfold handle at h
  split at h
  · exact h
  · cases h

/-- **Every move leaves the network in order.** -/
theorem Orderly.move (h : s.Orderly job) (hm : Move job header s t) : t.Orderly job := by
  cases hm with
  | read hf he =>
    have hunsigned : s.feeder.hasSigned = false := by simp [hf, Feeder.hasSigned]
    refine ⟨h.staffed, h.printing, h.stopped, h.hungUp, fun hg => .inl (h.full_of_gone hunsigned hg),
      fun w hw hd => ?_, nofun⟩
    rw [h.drains_eq_false hunsigned hw] at hd
    cases hd
  | skip hf he =>
    refine ⟨h.staffed, h.printing, h.stopped, h.hungUp, h.left, h.heeded, fun hs => ?_⟩
    simp [hf, Feeder.hasSigned] at hs
  | sign hf he =>
    have hunsigned : s.feeder.hasSigned = false := by simp [hf, Feeder.hasSigned]
    exact ⟨h.staffed, h.printing, h.stopped, h.hungUp, fun hg => .inl (h.full_of_gone hunsigned hg),
      fun _ _ _ => rfl, fun _ => .inl he⟩
  | push hf =>
    have hunsigned : s.feeder.hasSigned = false := by simp [hf, Feeder.hasSigned]
    refine ⟨h.staffed, h.printing, h.stopped, h.hungUp, fun hg => .inl (h.full_of_gone hunsigned hg),
      fun w hw hd => ?_, nofun⟩
    rw [h.drains_eq_false hunsigned hw] at hd
    cases hd
  | giveUp hf hd =>
    have hunsigned : s.feeder.hasSigned = false := by simp [hf, Feeder.hasSigned]
    exact ⟨h.staffed, h.printing, h.stopped, h.hungUp, fun hg => .inl (h.full_of_gone hunsigned hg),
      fun _ _ _ => rfl, fun _ => .inr (h.interrupted_of_deserted hd hunsigned)⟩
  | close hf =>
    have hsigned : s.feeder.hasSigned = true := by simp [hf, Feeder.hasSigned]
    refine ⟨h.staffed, h.printing, h.stopped, h.hungUp, fun hg => ?_, fun _ _ _ => rfl, fun _ =>
      h.signed hsigned⟩
    exact (h.left hg).imp_right fun hq => ⟨rfl, hq.2⟩
  | heed hw hs => exact h.put hw rfl nofun fun _ => hs
  | @take i drains r queue hw hq =>
    have hput : (s.put i (handle job header r drains)).Orderly job :=
      h.put hw (by simp) (fun hg => absurd hg (handle_ne_gone r drains)) fun hd =>
        h.heeded _ (List.mem_of_getElem? hw) (by simpa using drains_of_handle hd)
    refine ⟨hput.staffed, hput.printing, hput.stopped, hput.hungUp, fun hg => ?_, hput.heeded, hput.signed⟩
    -- There was a record in the queue, so whoever has left did not do so for want of one.
    refine .inl ((hput.left hg).resolve_right fun hs => ?_)
    simp [Network.put, hq] at hs
  | @leave i drains hw hq hc =>
    refine h.put hw (by simp) (fun _ => .inr ⟨?_, hq⟩) nofun
    cases drains with
    | false => exact Feeder.hasSigned_of_hasClosed (hc rfl)
    | true => exact h.heeded _ (List.mem_of_getElem? hw) rfl
  | @report i report drains hw hl =>
    have hput : (s.put i (.waiting drains)).Orderly job :=
      h.put hw rfl (by cases drains <;> nofun) fun hd =>
        h.heeded _ (List.mem_of_getElem? hw) ((Hand.drains_waiting drains).symm.trans hd)
    exact ⟨hput.staffed, hput.printing, fun hp =>
      .inl (h.full_of_stopped hp (deserted_eq_false hw rfl)), hput.hungUp, hput.left, hput.heeded,
      hput.signed⟩
  | withhold hw hl =>
    exact h.put hw rfl (fun _ => .inl (h.full_of_stopped (h.hungUp hl) (deserted_eq_false hw rfl)))
      nofun
  | print hp hr =>
    have hwanted := h.printing hp
    refine ⟨h.staffed, fun hp' => by simpa using hp', fun hp' => .inl (by simpa using hp'),
      fun hl => ?_, fun hg => ?_, h.heeded, fun hs => ?_⟩
    · rw [h.hungUp hl] at hp
      cases hp
    · exact .inr ((h.left hg).resolve_left (by simp [hwanted]))
    · rcases h.signed hs with he | hc | hfull
      · exact .inl he
      · exact .inr (.inl hc)
      · rw [hwanted] at hfull
        cases hfull
  | stop hp hr hd =>
    exact ⟨h.staffed, nofun, fun _ => .inr ⟨hd, hr⟩, fun _ => rfl, h.left, h.heeded, h.signed⟩
  | hangUp hp hl =>
    exact ⟨h.staffed, h.printing, h.stopped, fun _ => hp, h.left, h.heeded, h.signed⟩

/-- A network that has been interrupted stays so. -/
theorem Interrupted.move (hi : s.Interrupted job) (h : s.Orderly job)
    (hm : Move job header s t) : t.Interrupted job := by
  have hput : ∀ {index hand new}, s.workers[index]? = some hand → hand.hasLeft = false →
      (s.put index new).Interrupted job := fun hw hhand =>
    hi.imp_left fun hc => mem_put hw (by rintro rfl; cases hhand) hc
  cases hm with
  | read => exact hi
  | skip => exact hi
  | sign => exact hi
  | push => exact hi
  | giveUp => exact hi
  | close => exact hi
  | heed hw => exact hput hw rfl
  | take _ hw => exact hput hw (by simp)
  | leave _ hw => exact hput hw (by simp)
  | report hw => exact hput hw rfl
  | withhold hw => exact hput hw rfl
  | print hp =>
    refine .inl (hi.resolve_right ?_)
    simp [h.printing hp]
  | stop => exact hi
  | hangUp => exact hi

/-! ### At the end -/

/-- Nothing is left for anybody. -/
structure Exhausted (s : Network) : Prop where
  /-- The feeder has left. -/
  feeder : s.feeder = .gone
  /-- So have all workers, of their own accord. -/
  workers : ∀ hand ∈ s.workers, hand = .gone
  /-- The table has been read. -/
  entries : s.entries = []
  /-- All records have been taken. -/
  queue : s.queue = []
  /-- All reports have been printed. -/
  reports : s.reports = []

/-- At the end of a network that was not interrupted, nothing is left. -/
theorem Orderly.exhausted (h : s.Orderly job) (hdone : s.Done) (hi : ¬ s.Interrupted job) :
    s.Exhausted := by
  obtain ⟨hclosed, hdeserted, hprinting, -⟩ := hdone
  have hfull : ¬ s.printout.full job = true := fun hfull => hi (.inr hfull)
  have hgone : ∀ hand ∈ s.workers, hand = .gone := by
    intro hand hw
    have hleft := hasLeft_of_deserted hdeserted hw
    cases hand with
    | gone => rfl
    | crashed => exact absurd (.inl hw) hi
    | idle => cases hleft
    | draining => cases hleft
    | reporting => cases hleft
  -- There is at least one worker, and it has left because the queue was empty.
  have hmem : Hand.gone ∈ s.workers := by
    have hstaffed := h.staffed
    obtain ⟨hand, hw⟩ := List.exists_mem_of_length_pos (l := s.workers) (by omega)
    rwa [hgone hand hw] at hw
  exact
    { feeder := by cases hf : s.feeder <;> simp_all [Feeder.hasClosed]
      workers := hgone
      entries := (h.signed (Feeder.hasSigned_of_hasClosed hclosed)).resolve_right hi
      queue := ((h.left hmem).resolve_left hfull).2
      reports := ((h.stopped hprinting).resolve_left hfull).2 }

end Network

end RowSieve

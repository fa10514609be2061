import RowSieve.Proofs.Store.Entries

/-!
# Writing to the end of a log

A store writes to the end of its log whatever stands there.  If the log is finished, or only spaces,
tabs and carriage returns stand after its last newline, then it is loaded with the new value
afterwards (`Store.load_append_entry`).  If anything else stands there, which a log that can be
loaded may have, then the new entry is on a line with it, and the log cannot be loaded any more.
-/

namespace RowSieve

/-! ### Logs that end in blanks -/

/-- Nothing but spaces, tabs and carriage returns stand after the last newline. -/
def EndsBlank (log : List UInt8) : Prop := ∀ b ∈ unfinished log, b ∈ [9, 13, 32]

instance (log : List UInt8) : Decidable (EndsBlank log) :=
  inferInstanceAs (Decidable (∀ b ∈ unfinished log, b ∈ [9, 13, 32]))

variable {log : List UInt8} {t : String}

theorem endsBlank_of_finished (h : Finished log) : EndsBlank log := by
  have hnil : unfinished log = [] := by
    refine List.rtakeWhile_eq_nil_iff.2 fun hne hlast => ?_
    have hnewline := h _ (List.getLast?_eq_getLast_of_ne_nil hne)
    simp [hnewline] at hlast
  intro b hb
  rw [hnil] at hb
  cases hb

theorem skipSpaces_eq_nil_iff {cs : List Char} :
    Json.skipSpaces cs = [] ↔ ∀ c ∈ cs, Json.isSpace c = true :=
  List.dropWhile_eq_nil_iff

/-- The blanks between the parts of a document are those that a log may end in. -/
theorem endsBlank_iff (ht : unfinished log = utf8 t) :
    EndsBlank log ↔ Json.skipSpaces t.toList = [] := by
  rw [skipSpaces_eq_nil_iff, EndsBlank, ht]
  constructor
  · intro h c hc
    obtain ⟨b, bs, hcode⟩ := List.exists_cons_of_ne_nil (String.utf8EncodeChar_ne_nil (c := c))
    have hb : b ∈ String.utf8EncodeChar c := by simp [hcode]
    have hmem := h b (by rw [utf8_eq_flatMap]; exact List.mem_flatMap.2 ⟨c, hc, hb⟩)
    have hsmall : ∀ b ∈ ([9, 13, 32] : List UInt8), b.toNat < 128 ∧
        Json.isSpace (Char.ofNat b.toNat) = true := by decide +kernel
    obtain ⟨hlt, hspace⟩ := hsmall b hmem
    rwa [← (mem_utf8EncodeChar_iff hlt).1 hb, Char.ofNat_toNat] at hspace
  · intro h b hb
    have hnewline : b ≠ 10 := fun h10 => newline_not_mem_unfinished log (by rwa [ht, ← h10])
    rw [utf8_eq_flatMap] at hb
    obtain ⟨c, hc, hb⟩ := List.mem_flatMap.1 hb
    have hspace := h c hc
    simp only [Json.isSpace, Bool.or_eq_true, decide_eq_true_eq] at hspace
    rcases hspace with ((rfl | rfl) | rfl) | rfl
    all_goals
      obtain rfl := List.mem_singleton.1 hb
      first | decide | exact absurd rfl hnewline

theorem allBlank_of_skipSpaces_eq_nil {cs : List Char} (h : Json.skipSpaces cs = []) :
    Text.allBlank cs = true := by
  refine List.all_eq_true.2 fun c hc => ?_
  have hspace := skipSpaces_eq_nil_iff.1 h c hc
  simp only [Json.isSpace, Bool.or_eq_true, decide_eq_true_eq] at hspace
  rcases hspace with ((rfl | rfl) | rfl) | rfl <;> decide

namespace Entry

open Json

/-! ### An entry on a line with something else -/

/-- A document does not begin with a blank of another kind. -/
theorem ofLine?_append_of_blank {blanks : List Char} (hblank : Text.allBlank blanks = true)
    (h : skipSpaces blanks ≠ []) (more : List Char) : ofLine? (blanks ++ more) = none := by
  obtain ⟨c, tail, hcons⟩ := List.exists_cons_of_ne_nil h
  have hc : Text.isBlank c = true := by
    have hmem : c ∈ skipSpaces blanks := by simp [hcons]
    exact List.all_eq_true.1 hblank c ((List.dropWhile_suffix _).subset hmem)
  have hfirst : c ∉ ['n', 't', 'f', '"', '[', '\x7b', '-'] := by
    intro hmem
    have hnone : ∀ d ∈ ['n', 't', 'f', '"', '[', '\x7b', '-'], Text.isBlank d = false := by
      simp [Text.isBlank]
    rw [hnone c hmem] at hc
    cases hc
  have hdigit : c.isDigit = false := by
    cases hdigit : c.isDigit with
    | false => rfl
    | true =>
      rw [Text.isBlank_eq_false_of_isDigit hdigit] at hc
      cases hc
  have hskip : skipSpaces (blanks ++ more) = c :: (tail ++ more) := by
    rw [skipSpaces_append h, hcons, List.cons_append]
  rw [ofLine?, parse?, readValue_eq_none hskip hfirst hdigit]
  rfl

/-- After an entry, nothing is read from the line of another. -/
theorem ofLine?_append_of_entry {cs : List Char} {e : Entry} (h : ofLine? cs = some e)
    (e' : Entry) : ofLine? (cs ++ e'.line.toList) = none := by
  obtain ⟨v, hv, he⟩ := Option.bind_eq_some_iff.1 h
  have hnumber : ∀ digits, v ≠ .number digits := by
    rintro digits rfl
    cases he
  have hline : skipSpaces e'.line.toList ≠ [] := by
    rw [line_eq, String.toList_append, toList_text]
    simp [skipSpaces, isSpace]
  rw [ofLine?, parse?_append_eq_none hv hnumber hline]
  rfl

end Entry

namespace Store

variable {data data' : Dictionary String} {number : Nat}

/-! ### Replaying a log -/

theorem replay_append (ls ms : List Line) (data : Dictionary String) :
    replay (ls ++ ms) data = (replay ls data).bind (replay ms) := by
  induction ls generalizing data with
  | nil => rfl
  | cons line ls ih =>
    simp only [List.cons_append, replay]
    split
    · rfl
    · split
      · exact ih data
      · split
        · rfl
        · exact ih _

/-- What stands on the unfinished line of a log that can be loaded: blanks or an entry. -/
theorem exists_text_unfinished
    (h : replay (linesFrom number (unfinished log)) data = .ok data') :
    ∃ t : String, unfinished log = utf8 t ∧
      (Text.allBlank t.toList = true ∧ data' = data ∨
        Text.allBlank t.toList = false ∧ ∃ e, Entry.ofLine? t.toList = some e) := by
  by_cases hnil : unfinished log = []
  · rw [hnil] at h
    cases h
    exact ⟨"", hnil, .inl ⟨rfl, rfl⟩⟩
  · rw [linesFrom_of_not_mem (newline_not_mem_unfinished log) hnil, replay] at h
    split at h
    next => cases h
    next t ht =>
      refine ⟨t, decodeBytes?_eq_some_iff.1 ht, ?_⟩
      split at h
      next hblank => cases h; exact .inl ⟨hblank, rfl⟩
      next hblank =>
        split at h
        next => cases h
        next e he => exact .inr ⟨by simpa using hblank, e, he⟩

/-- What is replayed from an unfinished line that an entry is written to. -/
theorem replay_unfinished_append {t : String} (ht : unfinished log = utf8 t) (e : Entry)
    (number : Nat) (data : Dictionary String) :
    replay (linesFrom number (unfinished log ++ utf8 e.line)) data =
      match Entry.ofLine? (t.toList ++ e.line.toList) with
      | none => .error (.corrupt number)
      | some e => .ok (data.insert e.key e.value) := by
  have hnewline : 10 ∉ unfinished log ++ utf8 e.text := by
    simp [newline_not_mem_unfinished, newline_not_mem_utf8 e.newline_not_mem_text]
  have hdecode : decodeBytes? (unfinished log ++ utf8 e.line) = some (t ++ e.line) :=
    decodeBytes?_eq_some_iff.2 (by rw [ht, utf8_append])
  have hblank : Text.allBlank (t.toList ++ e.line.toList) = false := by
    rw [Entry.line_eq, String.toList_append]
    exact e.allBlank_append_text _ _
  rw [e.append_utf8_line, linesFrom_concat hnewline, ← e.append_utf8_line, hdecode]
  cases hread : Entry.ofLine? (t.toList ++ e.line.toList) <;>
    simp [replay, hblank, hread]

/-- **A log with an entry written to its end** is loaded with the value of the entry if it ended in
blanks before, and cannot be loaded otherwise. -/
theorem replay_append_entry (h : replay (linesOf log) .empty = .ok data) (e : Entry) :
    replay (linesOf (log ++ utf8 e.line)) .empty =
      if EndsBlank log then .ok (data.insert e.key e.value)
      else .error (.corrupt (linesOf log).length) := by
  have hlog := linesOf_eq_append log []
  rw [List.append_nil, List.append_nil] at hlog
  rw [hlog, replay_append] at h
  rw [linesOf_eq_append, replay_append]
  -- The finished lines are replayed as before, so only the unfinished one matters.
  cases hdata₀ : replay (linesFrom 1 (finished log)) .empty with
  | error e => rw [hdata₀] at h; cases h
  | ok data₀ =>
  rw [hdata₀] at h
  obtain ⟨t, ht, htext⟩ := exists_text_unfinished h
  change replay _ data₀ = _
  rw [replay_unfinished_append ht]
  by_cases hblank : EndsBlank log
  · have hspaces := (endsBlank_iff ht).1 hblank
    have hnewline : Json.skipSpaces "\n".toList = [] := rfl
    rw [if_pos hblank, Entry.line_eq, String.toList_append,
      Entry.ofLine?_text hspaces hnewline]
    rcases htext with ⟨-, rfl⟩ | ⟨hnot, -⟩
    · rfl
    · rw [allBlank_of_skipSpaces_eq_nil hspaces] at hnot
      cases hnot
  · have hspaces := fun hnil => hblank ((endsBlank_iff ht).2 hnil)
    have hnone : Entry.ofLine? (t.toList ++ e.line.toList) = none := by
      rcases htext with ⟨hall, -⟩ | ⟨-, e', he'⟩
      · exact Entry.ofLine?_append_of_blank hall hspaces _
      · exact Entry.ofLine?_append_of_entry he' e
    have hne : unfinished log ≠ [] := by
      intro hnil
      exact hblank (by simp [EndsBlank, hnil])
    have hlength : (linesOf log).length = 1 + (splitLines (finished log)).length := by
      rw [hlog, linesFrom_of_not_mem (newline_not_mem_unfinished log) hne]
      simp [linesFrom]
      omega
    rw [if_neg hblank, hnone, hlength]

theorem finished_append_line (log : List UInt8) (e : Entry) : Finished (log ++ utf8 e.line) := by
  intro b hb
  rw [e.append_utf8_line, List.getLast?_concat] at hb
  exact (Option.some.inj hb).symm

/-- The log that holds an entry without its newline. -/
theorem replay_text (e : Entry) (data : Dictionary String) :
    replay (linesOf (utf8 e.text)) data = .ok (data.insert e.key e.value) := by
  have hne : utf8 e.text ≠ [] := by
    have hbrace : (123 : UInt8) ∈ utf8 e.text := by
      rw [mem_utf8_iff (by decide), Entry.toList_text]
      exact ⟨'\x7b', by simp, rfl⟩
    exact List.ne_nil_of_mem hbrace
  have hlines : linesOf (utf8 e.text) = [⟨1, decodeBytes? (utf8 e.text)⟩] :=
    linesFrom_of_not_mem (newline_not_mem_utf8 e.newline_not_mem_text) hne 1
  have hread : Entry.ofLine? e.text.toList = some e := by
    have hnil : Json.skipSpaces [] = [] := rfl
    have h := Entry.ofLine?_text hnil hnil e
    rwa [List.append_nil, List.nil_append] at h
  have hblank : Text.allBlank e.text.toList = false := by
    simpa using e.allBlank_append_text [] []
  rw [hlines, decodeBytes?_eq_some_iff.2 rfl]
  simp only [replay, hblank, Bool.false_eq_true, if_false, hread]

/-! ### Stores -/

theorem load_eq_ok_iff {s : Store} :
    load log = .ok s ↔ replay (linesOf log) .empty = .ok s.data ∧ s.log = log ∧ s.pending = [] ∧
      s.isOpen = true := by
  unfold load
  cases replay (linesOf log) .empty with
  | error e => simp [Except.map]
  | ok data =>
    obtain ⟨log', pending, data', isOpen⟩ := s
    simp only [Except.map, Except.ok.injEq, Store.mk.injEq]
    grind

theorem load_eq_error_iff {e : Error} :
    load log = .error e ↔ replay (linesOf log) .empty = .error e := by
  unfold load
  cases replay (linesOf log) .empty <;> simp [Except.map]

/-- **What becomes of a log that a value is put into.**  The store that is loaded from it writes an
entry to its end, which keeps the log readable exactly if it ended in blanks: then it is loaded with
the new value, and otherwise the line that the entry was written to is no entry. -/
theorem load_close_put {s : Store} (h : load log = .ok s) (key value : String) :
    ∃ s', s.put key value = .ok s' ∧ s'.close.log = log ++ entryBytes key value ∧
      load s'.close.log =
        if EndsBlank log then .ok ⟨s'.close.log, [], s.data.insert key value, true⟩
        else .error (.corrupt (linesOf log).length) := by
  obtain ⟨hreplay, hlog, hpending, hopen⟩ := load_eq_ok_iff.1 h
  refine ⟨_, by rw [put, if_pos hopen], ?_, ?_⟩
  · simp [close, flush, hlog, hpending]
  · have hclosed : s.log ++ (s.pending ++ entryBytes key value) =
        log ++ utf8 (Entry.line ⟨key, value⟩) := by
      rw [hlog, hpending]
      rfl
    simp only [close, flush, hclosed]
    have hafter := replay_append_entry hreplay ⟨key, value⟩
    split
    next hblank =>
      rw [if_pos hblank] at hafter
      exact load_eq_ok_iff.2 ⟨hafter, rfl, rfl, rfl⟩
    next hblank =>
      rw [if_neg hblank] at hafter
      exact load_eq_error_iff.2 hafter

/-- An empty log, and the log that comes of it. -/
theorem load_close_put_twice :
    ∃ s s' t t', load [] = .ok s ∧ s.put "a" "1" = .ok s' ∧ load s'.close.log = .ok t ∧
      t.put "b" "2" = .ok t' ∧ load t'.close.log =
        .ok ⟨t'.close.log, [], (Dictionary.empty.insert "a" "1").insert "b" "2", true⟩ := by
  have hs : load [] = .ok ⟨[], [], .empty, true⟩ := rfl
  obtain ⟨s', hput, hlog, hload⟩ := load_close_put hs "a" "1"
  rw [if_pos (by decide +kernel)] at hload
  obtain ⟨t', hput', -, hload'⟩ := load_close_put hload "b" "2"
  have hblank : EndsBlank s'.close.log := by
    rw [hlog]
    exact endsBlank_of_finished (finished_append_line [] ⟨"a", "1"⟩)
  rw [if_pos hblank] at hload'
  exact ⟨_, s', _, t', hs, hput, hload, hput', hload'⟩

/-- A log whose last line is an entry without a newline can be loaded, but not any more after a
value is put into it. -/
theorem load_close_put_unfinished :
    ∃ s s', load (utf8 "\x7b\"key\":\"a\",\"value\":\"1\"\x7d") = .ok s ∧
      s.put "b" "2" = .ok s' ∧ load s'.close.log = .error (.corrupt 1) := by
  have htext : "\x7b\"key\":\"a\",\"value\":\"1\"\x7d" = Entry.text ⟨"a", "1"⟩ := by decide
  rw [htext]
  have hload : load (utf8 (Entry.text ⟨"a", "1"⟩)) =
      .ok ⟨utf8 (Entry.text ⟨"a", "1"⟩), [], Dictionary.empty.insert "a" "1", true⟩ :=
    load_eq_ok_iff.2 ⟨replay_text ⟨"a", "1"⟩ .empty, rfl, rfl, rfl⟩
  have hafter := replay_append_entry (replay_text ⟨"a", "1"⟩ .empty) ⟨"b", "2"⟩
  have hblank : ¬ EndsBlank (utf8 (Entry.text ⟨"a", "1"⟩)) := by
    rw [← htext]
    decide
  have hline : (linesOf (utf8 (Entry.text ⟨"a", "1"⟩))).length = 1 := by
    rw [← htext]
    rfl
  rw [if_neg hblank, hline] at hafter
  refine ⟨_, _, hload, rfl, ?_⟩
  exact load_eq_error_iff.2 hafter

end Store

end RowSieve

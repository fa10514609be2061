import RowSieve.Json.Document
import RowSieve.Proofs.Json.Strings

/-!
# A document ends where it ends

What stands after a document does not matter for reading it, and neither does the bound
(`Json.readValue_append`), with one exception: a number ends where no more digits come.

So a text that is a document other than a number is none any more when something that is not blank
is written after it (`Json.parse?_append_eq_none`).
-/

namespace RowSieve

namespace Json

variable {cs rest spelling : List Char}

theorem skipSpaces_append (h : skipSpaces cs ≠ []) (more : List Char) :
    skipSpaces (cs ++ more) = skipSpaces cs ++ more := by
  unfold skipSpaces at *
  rw [List.dropWhile_append, if_neg (by simpa using h)]

/-- More text does not change what comes first. -/
theorem skipSpaces_append_ne {c : Char} (hne : skipSpaces cs ≠ [])
    (h : ∀ tail, skipSpaces cs ≠ c :: tail) (more tail : List Char) :
    skipSpaces (cs ++ more) ≠ c :: tail := by
  intro heq
  obtain ⟨d, ds, hcons⟩ := List.exists_cons_of_ne_nil hne
  rw [skipSpaces_append hne, hcons, List.cons_append, List.cons.injEq] at heq
  exact h ds (by rw [hcons, heq.1])

/-! ### Strings and numbers -/

theorem splitText?_append (h : splitText? cs = some (spelling, rest)) (more : List Char) :
    splitText? (cs ++ more) = some (spelling, rest ++ more) := by
  induction cs using splitText?.induct generalizing spelling with
  | case1 => cases h
  | case2 => cases h; rfl
  | case3 a b c d cs hcode ih =>
    simp only [splitText?, if_pos hcode, Option.map_eq_some_iff, Prod.mk.injEq, Prod.exists] at h
    obtain ⟨tail, _, htail, rfl, rfl⟩ := h
    simp only [List.cons_append, splitText?, if_pos hcode, ih htail, Option.map_some]
  | case4 a b c d cs hcode => simp [splitText?, hcode] at h
  | case5 c cs hu hletter ih =>
    have hmem := List.contains_iff_mem.1 hletter
    rw [splitText?_letter hmem, Option.map_eq_some_iff] at h
    obtain ⟨⟨tail, _⟩, htail, h⟩ := h
    cases h
    rw [List.cons_append, List.cons_append, splitText?_letter hmem, ih htail]
    rfl
  | case6 c cs hu hletter => rw [splitText?.eq_4 _ _ hu, if_neg hletter] at h; cases h
  | case7 c cs hquote hu hletter hcontrol =>
    rw [splitText?.eq_5 _ _ hquote hu hletter, if_pos hcontrol] at h
    cases h
  | case8 c cs hquote hu hletter hcontrol ih =>
    simp only [Bool.or_eq_true, decide_eq_true_eq, not_or] at hcontrol
    rw [splitText?_plain hquote hcontrol.1 hcontrol.2, Option.map_eq_some_iff] at h
    obtain ⟨⟨tail, _⟩, htail, h⟩ := h
    cases h
    rw [List.cons_append, splitText?_plain hquote hcontrol.1 hcontrol.2, ih htail]
    rfl

theorem splitDigits?_append (h : splitDigits? cs = some (spelling, rest)) (hrest : rest ≠ [])
    (more : List Char) : splitDigits? (cs ++ more) = some (spelling, rest ++ more) := by
  unfold splitDigits? at *
  simp only [Option.ite_none_left_eq_some, Option.some.injEq, Prod.mk.injEq] at h ⊢
  obtain ⟨hdigits, rfl, rfl⟩ := h
  have hlength : (cs.takeWhile Char.isDigit).length ≠ cs.length := by
    intro hall
    have htake := List.takeWhile_append_dropWhile (p := Char.isDigit) (l := cs)
    have := congrArg List.length htake
    rw [List.length_append, hall, Nat.add_eq_left, List.length_eq_zero_iff] at this
    exact hrest this
  rw [List.takeWhile_append, if_neg hlength, List.dropWhile_append, if_neg (by simpa using hrest)]
  exact ⟨hdigits, rfl, rfl⟩

theorem splitWhole?_append (h : splitWhole? cs = some (spelling, rest)) (hrest : rest ≠ [])
    (more : List Char) : splitWhole? (cs ++ more) = some (spelling, rest ++ more) := by
  cases cs with
  | nil => simp [splitWhole?, splitDigits?] at h
  | cons c cs =>
    by_cases hc : c = '0'
    · subst hc
      cases h
      rfl
    · rw [splitWhole?.eq_2 _ fun _ h => hc (List.cons.inj h).1] at h
      rw [List.cons_append, splitWhole?.eq_2 _ fun _ h => hc (List.cons.inj h).1]
      exact splitDigits?_append h hrest more

theorem splitFraction?_append (h : splitFraction? cs = some (spelling, rest)) (hrest : rest ≠ [])
    (more : List Char) : splitFraction? (cs ++ more) = some (spelling, rest ++ more) := by
  cases cs with
  | nil => cases h; exact absurd rfl hrest
  | cons c cs =>
    by_cases hc : c = '.'
    · subst hc
      simp only [splitFraction?, Option.map_eq_some_iff, Prod.mk.injEq, Prod.exists] at h
      obtain ⟨digits, _, hdigits, rfl, rfl⟩ := h
      simp only [List.cons_append, splitFraction?, splitDigits?_append hdigits hrest,
        Option.map_some]
    · rw [splitFraction?.eq_2 _ fun _ h => hc (List.cons.inj h).1] at h
      cases h
      rw [List.cons_append, splitFraction?.eq_2 _ fun _ h => hc (List.cons.inj h).1]

theorem splitExponent?_append (h : splitExponent? cs = some (spelling, rest)) (hrest : rest ≠ [])
    (more : List Char) : splitExponent? (cs ++ more) = some (spelling, rest ++ more) := by
  cases cs with
  | nil => cases h; exact absurd rfl hrest
  | cons e cs =>
    by_cases he : (e = 'e' || e = 'E') = true
    · cases cs with
      | nil => simp [splitExponent?, he] at h
      | cons s digits =>
        by_cases hs : (s = '+' || s = '-') = true
        · simp only [splitExponent?, if_pos he, if_pos hs, Option.map_eq_some_iff, Prod.mk.injEq,
            Prod.exists] at h
          obtain ⟨ds, _, hds, rfl, rfl⟩ := h
          simp only [List.cons_append, splitExponent?, if_pos he, if_pos hs,
            splitDigits?_append hds hrest, Option.map_some]
        · simp only [splitExponent?, if_pos he, if_neg hs, Option.map_eq_some_iff, Prod.mk.injEq,
            Prod.exists] at h
          obtain ⟨ds, _, hds, rfl, rfl⟩ := h
          have hds' := splitDigits?_append hds hrest more
          rw [List.cons_append] at hds'
          simp only [List.cons_append, splitExponent?, if_pos he, if_neg hs, hds', Option.map_some]
    · simp only [splitExponent?, if_neg he] at h
      cases h
      simp only [List.cons_append, splitExponent?, if_neg he]

theorem splitMagnitude?_append (h : splitMagnitude? cs = some (spelling, rest)) (hrest : rest ≠ [])
    (more : List Char) : splitMagnitude? (cs ++ more) = some (spelling, rest ++ more) := by
  simp only [splitMagnitude?, Option.bind_eq_bind, Option.bind_eq_some_iff, Prod.exists,
    Option.pure_def, Option.some.injEq, Prod.mk.injEq] at h
  obtain ⟨whole, cs₁, hwhole, fraction, cs₂, hfraction, exponent, _, hexponent, rfl, rfl⟩ := h
  -- Something is left at the end, so something is left after each part.
  have h₂ : cs₂ ≠ [] := by
    rintro rfl
    cases hexponent
    exact hrest rfl
  have h₁ : cs₁ ≠ [] := by
    rintro rfl
    cases hfraction
    exact h₂ rfl
  simp [splitMagnitude?, splitWhole?_append hwhole h₁, splitFraction?_append hfraction h₂,
    splitExponent?_append hexponent hrest]

theorem splitNumber?_append (h : splitNumber? cs = some (spelling, rest)) (hrest : rest ≠ [])
    (more : List Char) : splitNumber? (cs ++ more) = some (spelling, rest ++ more) := by
  cases cs with
  | nil => simp [splitNumber?, splitMagnitude?, splitWhole?, splitDigits?] at h
  | cons c cs =>
    by_cases hc : c = '-'
    · subst hc
      simp only [splitNumber?, Option.map_eq_some_iff, Prod.mk.injEq, Prod.exists] at h
      obtain ⟨digits, _, hdigits, rfl, rfl⟩ := h
      simp only [List.cons_append, splitNumber?, splitMagnitude?_append hdigits hrest,
        Option.map_some]
    · rw [splitNumber?.eq_2 _ fun _ h => hc (List.cons.inj h).1] at h
      rw [List.cons_append, splitNumber?.eq_2 _ fun _ h => hc (List.cons.inj h).1]
      exact splitMagnitude?_append h hrest more

/-- A number begins with a digit or a minus. -/
theorem isDigit_or_eq_of_splitNumber? {c : Char}
    (h : splitNumber? (c :: cs) = some (spelling, rest)) : c.isDigit = true ∨ c = '-' := by
  by_cases hc : c = '-'
  · exact .inr hc
  · refine .inl ?_
    rw [splitNumber?.eq_2 _ fun _ h => hc (List.cons.inj h).1] at h
    cases hdigit : c.isDigit with
    | true => rfl
    | false =>
      have hzero : c ≠ '0' := by
        rintro rfl
        cases hdigit
      simp [splitMagnitude?, splitWhole?.eq_2 _ fun _ h => hzero (List.cons.inj h).1, splitDigits?,
        hdigit] at h

/-! ### Documents -/

/-- Only numbers begin with none of these characters. -/
theorem readValue_of_not_mem {c : Char} {tail : List Char} (hcs : skipSpaces cs = c :: tail)
    (hc : c ∉ ['n', 't', 'f', '"', '[', '\x7b']) (bound : Nat) :
    readValue (bound + 1) cs =
      (splitNumber? (c :: tail)).map fun (spelling, rest) => (.number spelling, rest) := by
  simp only [List.mem_cons, List.not_mem_nil, or_false, not_or] at hc
  obtain ⟨hn, ht, hf, hquote, hlist, hobject⟩ := hc
  rw [readValue, hcs]
  split
  next heq => exact absurd (List.cons.inj heq).1 hn
  next heq => exact absurd (List.cons.inj heq).1 ht
  next heq => exact absurd (List.cons.inj heq).1 hf
  next heq => exact absurd (List.cons.inj heq).1 hquote
  next heq => exact absurd (List.cons.inj heq).1 hlist
  next heq => exact absurd (List.cons.inj heq).1 hobject
  next => rfl

/-- A document begins with a letter of a name, a quote, a bracket, a digit or a minus. -/
theorem readValue_eq_none {c : Char} {tail : List Char} (hcs : skipSpaces cs = c :: tail)
    (hc : c ∉ ['n', 't', 'f', '"', '[', '\x7b', '-']) (hdigit : c.isDigit = false) (bound : Nat) :
    readValue bound cs = none := by
  cases bound with
  | zero => rfl
  | succ bound =>
    rw [readValue_of_not_mem hcs fun hmem => hc (List.mem_append_left ['-'] hmem),
      Option.map_eq_none_iff, Option.eq_none_iff_forall_ne_some]
    rintro ⟨spelling, rest⟩ hnumber
    rcases isDigit_or_eq_of_splitNumber? hnumber with h | h
    · rw [hdigit] at h
      cases h
    · exact hc (by simp [h])

/-- What the readers with a bound make of a text does not depend on what stands after it, or on a
larger bound. -/
structure Prolongs (bound : Nat) : Prop where
  /-- A document, unless it is a number that more digits may follow. -/
  value {cs rest : List Char} {v : Json} : readValue bound cs = some (v, rest) →
    (rest ≠ [] ∨ ∀ digits, v ≠ .number digits) →
    ∀ larger ≥ bound, ∀ more, readValue larger (cs ++ more) = some (v, rest ++ more)
  /-- The rest of a list. -/
  items {cs rest : List Char} {items : List Json} : readItems bound cs = some (items, rest) →
    ∀ larger ≥ bound, ∀ more, readItems larger (cs ++ more) = some (items, rest ++ more)
  /-- The rest of an object. -/
  members {cs rest : List Char} {members : List (List Char × Json)} :
    readMembers bound cs = some (members, rest) →
    ∀ larger ≥ bound, ∀ more, readMembers larger (cs ++ more) = some (members, rest ++ more)

theorem readItems_ne_nil {bound : Nat} {items : List Json}
    (h : readItems bound cs = some (items, rest)) : cs ≠ [] := by
  rintro rfl
  cases bound with
  | zero => cases h
  | succ bound =>
    cases bound with
    | zero => simp [readItems, readValue] at h
    | succ bound =>
      simp [readItems, readValue, skipSpaces, splitNumber?, splitMagnitude?, splitWhole?,
        splitDigits?] at h

theorem readMembers_ne_nil {bound : Nat} {members : List (List Char × Json)}
    (h : readMembers bound cs = some (members, rest)) : cs ≠ [] := by
  rintro rfl
  cases bound <;> simp [readMembers, skipSpaces] at h

variable {bound : Nat}

theorem Prolongs.value_succ (ih : Prolongs bound) {v : Json}
    (h : readValue (bound + 1) cs = some (v, rest))
    (hend : rest ≠ [] ∨ ∀ digits, v ≠ .number digits)
    (larger : Nat) (hlarger : bound ≤ larger) (more : List Char) :
    readValue (larger + 1) (cs ++ more) = some (v, rest ++ more) := by
  rw [readValue] at h ⊢
  split at h
  next hcs =>
    rw [skipSpaces_append (by simp [hcs]), hcs]
    cases h
    rfl
  next hcs =>
    rw [skipSpaces_append (by simp [hcs]), hcs]
    cases h
    rfl
  next hcs =>
    rw [skipSpaces_append (by simp [hcs]), hcs]
    cases h
    rfl
  next inner hcs =>
    rw [skipSpaces_append (by simp [hcs]), hcs]
    obtain ⟨⟨spelling, _⟩, htext, h⟩ := Option.map_eq_some_iff.1 h
    cases h
    simp only [List.cons_append, splitText?_append htext, Option.map_some]
  next inner hcs =>
    rw [skipSpaces_append (by simp [hcs]), hcs]
    split at h
    next hinner =>
      have hne : skipSpaces inner ≠ [] := by simp [hinner]
      simp only [List.cons_append, skipSpaces_append hne, hinner]
      cases h
      rfl
    next hinner =>
      obtain ⟨⟨items, _⟩, hitems, h⟩ := Option.map_eq_some_iff.1 h
      cases h
      have hne := readItems_ne_nil hitems
      simp only [List.cons_append]
      split
      next hclose => exact absurd hclose (skipSpaces_append_ne hne hinner more _)
      next =>
        simp only [skipSpaces_append hne, ih.items hitems larger hlarger more, Option.map_some]
  next inner hcs =>
    rw [skipSpaces_append (by simp [hcs]), hcs]
    split at h
    next hinner =>
      have hne : skipSpaces inner ≠ [] := by simp [hinner]
      simp only [List.cons_append, skipSpaces_append hne, hinner]
      cases h
      rfl
    next hinner =>
      obtain ⟨⟨members, _⟩, hmembers, h⟩ := Option.map_eq_some_iff.1 h
      cases h
      have hne := readMembers_ne_nil hmembers
      simp only [List.cons_append]
      split
      next hclose => exact absurd hclose (skipSpaces_append_ne hne hinner more _)
      next =>
        simp only [skipSpaces_append hne, ih.members hmembers larger hlarger more, Option.map_some]
  next h₁ h₂ h₃ h₄ h₅ h₆ =>
    obtain ⟨⟨digits, _⟩, hnumber, h⟩ := Option.map_eq_some_iff.1 h
    cases h
    -- A number has an end: something that is no digit comes after it.
    have hrest : rest ≠ [] := hend.resolve_right fun hall => hall digits rfl
    have hne : skipSpaces cs ≠ [] := by
      intro hnil
      rw [hnil] at hnumber
      simp [splitNumber?, splitMagnitude?, splitWhole?, splitDigits?] at hnumber
    obtain ⟨c, tail, hcons⟩ := List.exists_cons_of_ne_nil hne
    rw [hcons] at hnumber
    have hfirst : c ∉ ['n', 't', 'f', '"', '[', '\x7b'] := by
      intro hmem
      rcases isDigit_or_eq_of_splitNumber? hnumber with hdigit | rfl
      · have hnone : ∀ d ∈ ['n', 't', 'f', '"', '[', '\x7b'], d.isDigit = false := by simp
        rw [hnone c hmem] at hdigit
        cases hdigit
      · simp at hmem
    have hskip : skipSpaces (cs ++ more) = c :: (tail ++ more) := by
      rw [skipSpaces_append hne, hcons, List.cons_append]
    have hnumber' := splitNumber?_append hnumber hrest more
    rw [List.cons_append] at hnumber'
    rw [← readValue, readValue_of_not_mem hskip hfirst, hnumber']
    rfl

theorem Prolongs.items_succ (ih : Prolongs bound) {items : List Json}
    (h : readItems (bound + 1) cs = some (items, rest)) (larger : Nat) (hlarger : bound ≤ larger)
    (more : List Char) : readItems (larger + 1) (cs ++ more) = some (items, rest ++ more) := by
  rw [readItems] at h ⊢
  split at h
  next => cases h
  next item after hitem =>
    have hne : skipSpaces after ≠ [] := by
      intro hnil
      simp [hnil] at h
    have hafter : after ≠ [] := by
      rintro rfl
      exact hne rfl
    rw [ih.value hitem (.inl hafter) larger hlarger more]
    simp only [skipSpaces_append hne]
    split at h
    next hcomma =>
      obtain ⟨⟨items, _⟩, hitems, h⟩ := Option.map_eq_some_iff.1 h
      cases h
      simp only [hcomma, List.cons_append, ih.items hitems larger hlarger more, Option.map_some]
    next hclose =>
      cases h
      simp only [hclose, List.cons_append]
    next => cases h

theorem Prolongs.members_succ (ih : Prolongs bound) {members : List (List Char × Json)}
    (h : readMembers (bound + 1) cs = some (members, rest)) (larger : Nat)
    (hlarger : bound ≤ larger) (more : List Char) :
    readMembers (larger + 1) (cs ++ more) = some (members, rest ++ more) := by
  rw [readMembers] at h ⊢
  split at h
  next inner hcs =>
    rw [skipSpaces_append (by simp [hcs]), hcs]
    split at h
    next => cases h
    next name after hname =>
      simp only [List.cons_append, splitText?_append hname more]
      split at h
      next inner hcolon =>
        rw [skipSpaces_append (by simp [hcolon]), hcolon]
        split at h
        next => cases h
        next item after hitem =>
          have hne : skipSpaces after ≠ [] := by
            intro hnil
            simp [hnil] at h
          have hafter : after ≠ [] := by
            rintro rfl
            exact hne rfl
          simp only [List.cons_append, ih.value hitem (.inl hafter) larger hlarger more,
            skipSpaces_append hne]
          split at h
          next hcomma =>
            obtain ⟨⟨members, _⟩, hmembers, h⟩ := Option.map_eq_some_iff.1 h
            cases h
            simp only [hcomma, List.cons_append, ih.members hmembers larger hlarger more,
              Option.map_some]
          next hclose =>
            cases h
            simp only [hclose, List.cons_append]
          next => cases h
      next => cases h
  next => cases h

theorem prolongs (bound : Nat) : Prolongs bound := by
  -- The three readers call each other with a smaller bound.
  induction bound with
  | zero => exact ⟨nofun, nofun, nofun⟩
  | succ bound ih =>
    have hlarger : ∀ larger ≥ bound + 1, ∃ n, larger = n + 1 ∧ bound ≤ n := fun larger h =>
      ⟨larger - 1, by omega, by omega⟩
    refine ⟨fun h hend larger hl more => ?_, fun h larger hl more => ?_, fun h larger hl more => ?_⟩
    · obtain ⟨n, rfl, hn⟩ := hlarger larger hl
      exact ih.value_succ h hend n hn more
    · obtain ⟨n, rfl, hn⟩ := hlarger larger hl
      exact ih.items_succ h n hn more
    · obtain ⟨n, rfl, hn⟩ := hlarger larger hl
      exact ih.members_succ h n hn more

/-- **A document is no document any more with something after it**, unless that is blank, or the
document is a number. -/
theorem parse?_append_eq_none {v : Json} (h : parse? cs = some v)
    (hnumber : ∀ digits, v ≠ .number digits) {more : List Char} (hmore : skipSpaces more ≠ []) :
    parse? (cs ++ more) = none := by
  obtain ⟨⟨document, rest⟩, hread, h⟩ := Option.bind_eq_some_iff.1 h
  obtain ⟨hrest, rfl⟩ : skipSpaces rest = [] ∧ document = v := by
    simpa only [Option.ite_none_right_eq_some, List.isEmpty_iff, Option.some.injEq] using h
  have hread' := (prolongs _).value hread (.inr hnumber) ((cs ++ more).length + 1) (by simp) more
  have hafter : skipSpaces (rest ++ more) = skipSpaces more := by
    unfold skipSpaces at *
    rw [List.dropWhile_append, if_pos (by simpa using hrest)]
  rw [parse?, hread', Option.bind_some]
  simp [hafter, hmore]

/-- Blanks before a document do not matter. -/
theorem readValue_append_of_spaces {spaces : List Char} (h : skipSpaces spaces = [])
    (bound : Nat) (cs : List Char) : readValue bound (spaces ++ cs) = readValue bound cs := by
  have hskip : skipSpaces (spaces ++ cs) = skipSpaces cs := by
    unfold skipSpaces at *
    rw [List.dropWhile_append, if_pos (by simpa using h)]
  cases bound with
  | zero => rfl
  | succ bound => rw [readValue, readValue, hskip]

/-! ### Written documents -/

variable {v : Json} {name after : List Char} {members : List (List Char × Json)}

/-- The document of a quoted text. -/
theorem readValue_quote (bound : Nat) (s : String) (rest : List Char) :
    readValue (bound + 1) ((quote s).toList ++ rest) =
      some (.text (s.toList.flatMap escapeChar), rest) := by
  have hquote : (quote s).toList ++ rest = '"' :: (s.toList.flatMap escapeChar ++ '"' :: rest) := by
    simp [quote]
  rw [hquote]
  simp [readValue, skipSpaces, isSpace, splitText?_escape]

/-- The last member of an object. -/
theorem readMembers_last (hname : splitText? cs = some (name, ':' :: after))
    (hvalue : readValue bound after = some (v, '\x7d' :: rest)) :
    readMembers (bound + 1) ('"' :: cs) = some ([(name, v)], rest) := by
  simp [readMembers, skipSpaces, isSpace, hname, hvalue]

/-- A member of an object with others after it. -/
theorem readMembers_more (hname : splitText? cs = some (name, ':' :: after)) {more : List Char}
    (hvalue : readValue bound after = some (v, ',' :: more))
    (hmembers : readMembers bound more = some (members, rest)) :
    readMembers (bound + 1) ('"' :: cs) = some ((name, v) :: members, rest) := by
  simp [readMembers, skipSpaces, isSpace, hname, hvalue, hmembers]

/-- An object with members. -/
theorem readValue_object (hmembers : readMembers bound ('"' :: cs) = some (members, rest)) :
    readValue (bound + 1) ('\x7b' :: '"' :: cs) = some (.object members, rest) := by
  simp [readValue, skipSpaces, isSpace, hmembers]

end Json

end RowSieve

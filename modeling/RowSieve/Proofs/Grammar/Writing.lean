import RowSieve.Proofs.Grammar.Listing
import RowSieve.Proofs.Grammar.Phrase

/-!
# Phrases that are written

`Dialect.Writes` says that a text is the spelling of a phrase: wherever the text stands inside a
clause, its tokens make up the phrase, as long as what comes next is no part of the last token
(`Dialect.Bounded`).  There is one statement for each kind of token and for each construction of
`Phrase`; put together along the rules of a grammar, they show that what is written by the rules is
read by them.
-/

namespace RowSieve

variable {σ α β γ : Type}

namespace Dialect

/-- What comes next ends the token in front of it, and makes no call of a name. -/
def Bounded (rest : List Char) : Prop := ∀ c ∈ rest.head?, c ∈ [' ', ',', ')']

theorem bounded_cons {c : Char} {rest : List Char} (hc : c ∈ [' ', ',', ')']) :
    Bounded (c :: rest) := by
  intro c' hc'
  cases hc'
  exact hc

theorem Bounded.forall_head? {p : Char → Prop} {rest : List Char} (h : Bounded rest)
    (hspace : p ' ') (hcomma : p ',') (hparen : p ')') : ∀ c ∈ rest.head?, p c := by
  intro c hc
  have hmem := h c hc
  simp only [List.mem_cons, List.not_mem_nil, or_false] at hmem
  obtain rfl | rfl | rfl := hmem
  · exact hspace
  · exact hcomma
  · exact hparen

/-- The text makes these tokens wherever it stands inside a clause. -/
def Spells [Strategies σ] (d : Dialect σ) (st : Statement σ) (s : String) (ls : List Lexeme) :
    Prop :=
  ∀ rest rests, Bounded rest → d.Lists st rest rests →
    d.Lists st (s.toList ++ rest) (ls ++ rests)

/-- The text is the spelling of a phrase. -/
def Writes [Strategies σ] (d : Dialect σ) (st : Statement σ) (D : Phrase α) (s : String) (a : α) :
    Prop :=
  ∃ ls, d.Spells st s ls ∧ ∀ ts, ts.map Token.lexeme = ls → D ts a

variable [Strategies σ] {d : Dialect σ} {st : Statement σ} {rest : List Char}
  {ls ms : List Lexeme} {l : Lexeme} {s s' w n : String} {D : Phrase α} {E : Phrase β}
  {F : Phrase γ} {a : α} {b : β} {c : γ}

/-! ### Tokens -/

theorem spells_word (hw : IsWord w.toList) (hk : d.keyword? w = none) :
    d.Spells st w [⟨.word, w⟩] := by
  intro rest rests hrest h
  have hparen : rest.head? ≠ some '(' := by
    intro hparen
    simpa using hrest _ hparen
  have hkind : d.kindInside ⟨.word, w⟩ rest = .word := by simp [kindInside, hparen, hk]
  have hlists := h.word hw (hrest.forall_head? (by decide) (by decide) (by decide))
    (by rw [hkind]; decide) (by simp [hk])
  rwa [hkind] at hlists

theorem spells_number (hn : Decimal.Numeral n.toList) : d.Spells st n [⟨.number, n⟩] := by
  intro rest rests hrest h
  have hread := Span.read_numeral hn (hrest.forall_head? (by decide) (by decide) (by decide))
  rw [Span.plain, String.ofList_toList] at hread
  obtain ⟨c, cs, hcs, hc⟩ := hn.exists_digit
  rw [hcs] at hread ⊢
  refine h.other hread (by simp) ⟨Text.isBlank_eq_false_of_isDigit hc, ne_of_isDigit hc rfl, ?_⟩
  rw [Bool.eq_false_iff]
  intro hstart
  rw [isDigit_eq_false_of_isWordStart hstart] at hc
  cases hc

theorem spells_negative (hn : Decimal.Numeral n.toList) :
    d.Spells st ("-" ++ n) [⟨.minus, "-"⟩, ⟨.number, n⟩] := by
  intro rest rests hrest h
  have hnumber := spells_number hn rest rests hrest h
  obtain ⟨c, cs, hcs, hc⟩ := hn.exists_digit
  simp only [String.toList_append, List.append_assoc, hcs] at hnumber ⊢
  exact hnumber.other (Span.read_minus hc) (by decide) (by decide)

theorem spells_literal {quote : Char} (hquote : quote = '\'' ∨ quote = '"') (s : String) :
    d.Spells st (Literal.spell quote s) [⟨.text, s⟩] := by
  intro rest rests hrest h
  obtain ⟨hspace, hcomma, hparen, hc⟩ : ' ' ≠ quote ∧ ',' ≠ quote ∧ ')' ≠ quote ∧
      Text.isBlank quote = false ∧ quote ≠ ';' ∧ isWordStart quote = false := by
    rcases hquote with rfl | rfl <;> decide
  have hread := Span.read_spell hquote s (hrest.forall_head? hspace hcomma hparen)
  have hspell : ∃ cs, (Literal.spell quote s).toList = quote :: cs := ⟨_, String.toList_ofList⟩
  obtain ⟨cs, hcs⟩ := hspell
  rw [hcs] at hread ⊢
  exact h.other hread (by simp) hc

theorem spells_quoteText (hs : '\\' ∉ s.toList) : d.Spells st (Node.quoteText s) [⟨.text, s⟩] := by
  rw [quoteText_eq_spell hs]
  exact spells_literal (.inl rfl) s

/-- A mark that is not the beginning of a comment. -/
theorem lists_mark {c : Char} (cs : List Char) {kind : Kind} {rests : List Lexeme}
    (h : d.Lists st rest rests)
    (hmark : mark? (c :: (cs ++ rest)) = some (kind, (c :: cs).length))
    (hcomment : c ≠ '-' ∧ c ≠ '/')
    (hc : Text.isBlank c = false ∧ c ≠ ';' ∧ isWordStart c = false) :
    d.Lists st (c :: (cs ++ rest)) (⟨kind, String.ofList (c :: cs)⟩ :: rests) := by
  have hsplit : (c :: (cs ++ rest)).splitAt (c :: cs).length = (c :: cs, rest) := by
    rw [List.splitAt_eq, ← List.cons_append, List.take_left, List.drop_left]
  have hread := Span.read_mark hmark hcomment.1 hcomment.2
  rw [hsplit] at hread
  obtain ⟨-, -, hkind⟩ := mark?_spec hmark
  simp only [List.mem_cons, List.not_mem_nil, or_false, not_or] at hkind
  exact h.other hread (by simp [hkind]) hc

theorem lists_comma {rests : List Lexeme} (h : d.Lists st rest rests) :
    d.Lists st (',' :: rest) (⟨.comma, ","⟩ :: rests) :=
  lists_mark [] h rfl (by decide) (by decide)

theorem lists_leftParen {rests : List Lexeme} (h : d.Lists st rest rests) :
    d.Lists st ('(' :: rest) (⟨.leftParen, "("⟩ :: rests) :=
  lists_mark [] h rfl (by decide) (by decide)

theorem lists_rightParen {rests : List Lexeme} (h : d.Lists st rest rests) :
    d.Lists st (')' :: rest) (⟨.rightParen, ")"⟩ :: rests) :=
  lists_mark [] h rfl (by decide) (by decide)

/-- A word right in front of a parenthesis is a function, whatever else it spells, unless it opens
a clause. -/
theorem lists_function {rests : List Lexeme} (h : d.Lists st ('(' :: rest) rests)
    (hw : IsWord w.toList)
    (hopens : ∀ kind, d.keyword? w = some kind → d.opensClause kind = false) :
    d.Lists st (w.toList ++ '(' :: rest) (⟨.function, w⟩ :: rests) := by
  have hkind : d.kindInside ⟨.word, w⟩ ('(' :: rest) = .function := by simp [kindInside]
  have hlists := h.word hw (by simp; decide) (by rw [hkind]; decide) hopens
  rwa [hkind] at hlists

/-! ### Constructions -/

theorem Spells.append (h : d.Spells st s ls) (h' : d.Spells st s' ms)
    (hs' : ∀ {rest}, Bounded rest → Bounded (s'.toList ++ rest)) :
    d.Spells st (s ++ s') (ls ++ ms) := by
  intro rest rests hrest hlists
  rw [String.toList_append, List.append_assoc, List.append_assoc]
  exact h _ _ (hs' hrest) (h' rest rests hrest hlists)

/-- A phrase of one token. -/
theorem writes_of_spells (h : d.Spells st s [l])
    (hD : ∀ t : Token, t.kind = l.kind → t.text = l.text → D [t] a) : d.Writes st D s a := by
  refine ⟨[l], h, fun ts hts => ?_⟩
  obtain ⟨t, rfl, rfl⟩ := List.map_eq_singleton_iff.1 hts
  exact hD t rfl rfl

/-- A phrase of one token, which stands for what `g` makes of the token's text. -/
theorem writes_token (h : d.Spells st s [l]) (g : String → α)
    (hD : ∀ t : Token, t.kind = l.kind → D [t] (g t.text)) : d.Writes st D s (g l.text) :=
  writes_of_spells h fun t hk htext => htext ▸ hD t hk

/-- A phrase of a number with a minus. -/
theorem writes_negative (hn : Decimal.Numeral n.toList) (g : String → α)
    (hD : ∀ m t : Token, m.kind = .minus → t.kind = .number → D [m, t] (g t.text)) :
    d.Writes st D ("-" ++ n) (g n) := by
  refine ⟨_, spells_negative hn, fun ts hts => ?_⟩
  obtain ⟨m, us, rfl, hm, hus⟩ := List.map_eq_cons_iff.1 hts
  obtain ⟨t, rfl, ht⟩ := List.map_eq_singleton_iff.1 hus
  rw [← show t.text = n from congrArg Lexeme.text ht]
  exact hD m t (congrArg Lexeme.kind hm) (congrArg Lexeme.kind ht)

theorem Writes.mono (h : d.Writes st D s a) (hE : ∀ ts, D ts a → E ts b) : d.Writes st E s b := by
  obtain ⟨ls, hspells, hphrase⟩ := h
  exact ⟨ls, hspells, fun ts hts => hE ts (hphrase ts hts)⟩

theorem Writes.append (h : d.Writes st D s a) (h' : d.Writes st E s' b)
    (hs' : ∀ {rest}, Bounded rest → Bounded (s'.toList ++ rest))
    (hF : ∀ ts us, D ts a → E us b → F (ts ++ us) c) : d.Writes st F (s ++ s') c := by
  obtain ⟨ls, hspells, hphrase⟩ := h
  obtain ⟨ms, hspells', hphrase'⟩ := h'
  refine ⟨ls ++ ms, hspells.append hspells' hs', fun ts hts => ?_⟩
  obtain ⟨ts, us, rfl, hts, hus⟩ := List.map_eq_append_iff.1 hts
  exact hF ts us (hphrase ts hts) (hphrase' us hus)

/-- What stands between two phrases makes one token of the given kind. -/
structure Joins (d : Dialect σ) (st : Statement σ) (glue : String) (kind : Kind) : Prop where
  /-- It ends what comes before. -/
  bounded : ∀ rest, Bounded (glue.toList ++ rest)
  /-- It makes the token. -/
  lists : ∃ text, ∀ {rest rests}, d.Lists st rest rests →
    d.Lists st (glue.toList ++ rest) (⟨kind, text⟩ :: rests)

variable {glue : String} {kind : Kind}

theorem Joins.bounded_append (h : d.Joins st glue kind) (s : String) (rest : List Char) :
    Bounded ((glue ++ s).toList ++ rest) := by
  rw [String.toList_append, List.append_assoc]
  exact h.bounded _

theorem joins_comma : d.Joins st ", " .comma where
  bounded rest := bounded_cons (by decide)
  lists := ⟨_, fun h => lists_comma (lists_blank.2 h)⟩

/-- A mark between blanks. -/
theorem joins_mark {c : Char} {cs : List Char} (hw : w.toList = c :: cs)
    (hmark : ∀ rest, mark? (c :: (cs ++ ' ' :: rest)) = some (kind, (c :: cs).length))
    (hcomment : c ≠ '-' ∧ c ≠ '/')
    (hc : Text.isBlank c = false ∧ c ≠ ';' ∧ isWordStart c = false) :
    d.Joins st (" " ++ w ++ " ") kind where
  bounded rest := by
    rw [String.toList_append, String.toList_append]
    exact bounded_cons (by decide)
  lists := by
    refine ⟨String.ofList (c :: cs), fun {rest rests} h => ?_⟩
    rw [String.toList_append, String.toList_append, hw, List.append_assoc, List.append_assoc]
    exact lists_blank.2 (lists_mark cs (lists_blank.2 h) (hmark rest) hcomment hc)

/-- A keyword between blanks, whether it opens a clause of the statement or no clause at all. -/
theorem joins_keyword (hw : IsWord w.toList) (hk : d.keyword? w = some kind)
    (hcomment : kind ≠ .comment)
    (hclause : d.opensClause kind = true → ∃ clause, st.clause? kind = some clause) :
    d.Joins st (" " ++ w ++ " ") kind where
  bounded rest := by
    rw [String.toList_append, String.toList_append]
    exact bounded_cons (by decide)
  lists := by
    refine ⟨w, fun {rest rests} h => ?_⟩
    rw [String.toList_append, String.toList_append, List.append_assoc, List.append_assoc]
    refine lists_blank.2 ?_
    have hrest : d.Lists st (" ".toList ++ rest) rests := lists_blank.2 h
    -- A keyword that opens a clause is read between two clauses, any other inside one.
    cases hopens : d.opensClause kind with
    | true =>
      obtain ⟨clause, hclause⟩ := hclause hopens
      exact hrest.clauseWord hw (by simp; decide) hk hcomment hopens hclause
    | false =>
      have hkind : d.kindInside ⟨.word, w⟩ (" ".toList ++ rest) = kind := by
        simp [kindInside, hk]
      have hlists := hrest.word hw (by simp; decide) (by rwa [hkind]) fun kind' hk' => by
        rw [hk] at hk'
        cases hk'
        exact hopens
      rwa [hkind] at hlists

theorem Joins.writes (hglue : d.Joins st glue kind) (h : d.Writes st D s a)
    (hE : ∀ t ts, t.kind = kind → D ts a → E (t :: ts) b) : d.Writes st E (glue ++ s) b := by
  obtain ⟨text, hlists⟩ := hglue.lists
  obtain ⟨ls, hspells, hphrase⟩ := h
  refine ⟨⟨kind, text⟩ :: ls, fun rest rests hrest hrests => ?_, fun ts hts => ?_⟩
  · rw [String.toList_append, List.append_assoc]
    exact hlists (hspells rest rests hrest hrests)
  · obtain ⟨t, ts, rfl, ht, hts⟩ := List.map_eq_cons_iff.1 hts
    exact hE t ts (congrArg Lexeme.kind ht) (hphrase ts hts)

open Phrase

variable {texts : γ → String} {f : γ → α} {cs : List γ}

theorem Joins.writes_separated (hglue : d.Joins st glue kind) (hcs : cs ≠ [])
    (h : ∀ c ∈ cs, d.Writes st D (texts c) (f c)) :
    d.Writes st (Separated kind D) (glue.intercalate (cs.map texts)) (cs.map f) := by
  induction cs with
  | nil => exact absurd rfl hcs
  | cons c cs ih =>
    have hfirst := h c (.head _)
    cases cs with
    | nil => simpa using hfirst.mono fun ts hts => Separated.single hts
    | cons c' cs =>
      have hrest := ih (by simp) fun c hc => h c (.tail _ hc)
      have hjoined : d.Writes st
          (fun us as => ∃ t vs, us = t :: vs ∧ t.kind = kind ∧ Separated kind D vs as)
          (glue ++ glue.intercalate ((c' :: cs).map texts)) ((c' :: cs).map f) :=
        hglue.writes hrest fun t vs ht hvs => ⟨t, vs, rfl, ht, hvs⟩
      rw [List.map_cons, List.map_cons, String.intercalate_cons_cons, String.append_assoc,
        List.map_cons]
      refine hfirst.append hjoined (fun _ => hglue.bounded_append _ _) fun ts us hts hus => ?_
      obtain ⟨t, vs, rfl, ht, hvs⟩ := hus
      exact .cons hts ht hvs

/-- A phrase behind its keyword, or nothing. -/
def optionalText (glue : String) (texts : γ → String) : Option γ → String
  | none => ""
  | some c => glue ++ texts c

theorem Joins.bounded_optionalText (hglue : d.Joins st glue kind) (o : Option γ)
    (h : Bounded rest) : Bounded ((optionalText glue texts o).toList ++ rest) := by
  cases o with
  | none => exact h
  | some c => exact hglue.bounded_append _ _

/-- Where a phrase is missing, nothing is written. -/
theorem writes_absent : d.Writes st (Optionally kind D) "" none := by
  refine ⟨[], fun _ _ _ hrests => hrests, fun ts hts => ?_⟩
  rw [List.map_eq_nil_iff] at hts
  subst hts
  exact .absent

theorem Joins.writes_optionalText (hglue : d.Joins st glue kind) {o : Option γ}
    (h : ∀ c ∈ o, d.Writes st D (texts c) (f c)) :
    d.Writes st (Optionally kind D) (optionalText glue texts o) (o.map f) := by
  cases o with
  | none => exact writes_absent
  | some c => exact hglue.writes (h c rfl) fun t ts ht hts => .present ht hts

/-- What was read behind a keyword, or was not, is written so. -/
theorem Joins.writes_optionally (hglue : d.Joins st glue kind) {texts : α → String} {o : Option α}
    {ts : List Token} (h : Optionally kind D ts o)
    (hD : ∀ us a, D us a → (∀ t ∈ us, t ∈ ts) → d.Writes st D (texts a) a) :
    d.Writes st (Optionally kind D) (optionalText glue texts o) o := by
  have hwrites : ∀ a ∈ o, d.Writes st D (texts a) (id a) := by
    intro a ha
    cases h with
    | absent => cases ha
    | present _ hus =>
      cases ha
      exact hD _ _ hus fun t ht => .tail _ ht
  have hoptional := hglue.writes_optionalText hwrites
  rwa [Option.map_id] at hoptional

/-- Phrases in parentheses, whatever comes next. -/
theorem exists_lists_parenthesized (h : ∀ c ∈ cs, d.Writes st D (texts c) (f c)) :
    ∃ ls, (∀ {rest rests}, d.Lists st rest rests →
        d.Lists st ('(' :: (", ".intercalate (cs.map texts)).toList ++ ')' :: rest) (ls ++ rests)) ∧
      ∀ ts, ts.map Token.lexeme = ls → Parenthesized D ts (cs.map f) := by
  by_cases hcs : cs = []
  · subst hcs
    refine ⟨[⟨.leftParen, "("⟩, ⟨.rightParen, ")"⟩],
      fun hrests => lists_leftParen (lists_rightParen hrests), fun ts hts => ?_⟩
    obtain ⟨o, us, rfl, ho, hus⟩ := List.map_eq_cons_iff.1 hts
    obtain ⟨c, rfl, hc⟩ := List.map_eq_singleton_iff.1 hus
    exact .empty (congrArg Lexeme.kind ho) (congrArg Lexeme.kind hc)
  · obtain ⟨ls, hspells, hphrase⟩ := joins_comma.writes_separated hcs h
    refine ⟨⟨.leftParen, "("⟩ :: ls ++ [⟨.rightParen, ")"⟩], fun hrests => ?_, fun ts hts => ?_⟩
    · rw [List.append_assoc]
      exact lists_leftParen (hspells _ _ (bounded_cons (by decide)) (lists_rightParen hrests))
    · obtain ⟨us, vs, rfl, hus, hvs⟩ := List.map_eq_append_iff.1 hts
      obtain ⟨o, us, rfl, ho, hus⟩ := List.map_eq_cons_iff.1 hus
      obtain ⟨c, rfl, hc⟩ := List.map_eq_singleton_iff.1 hvs
      exact .filled (congrArg Lexeme.kind ho) (hphrase us hus) (congrArg Lexeme.kind hc)

/-- The call of a function that is no word which opens a clause. -/
theorem writes_call (hw : IsWord w.toList)
    (hopens : ∀ kind, d.keyword? w = some kind → d.opensClause kind = false)
    (h : ∀ c ∈ cs, d.Writes st D (texts c) (f c))
    (hE : ∀ t ts, t.kind = .function → t.text = w → Parenthesized D ts (cs.map f) →
      E (t :: ts) b) :
    d.Writes st E (w ++ "(" ++ ", ".intercalate (cs.map texts) ++ ")") b := by
  obtain ⟨ls, hlists, hphrase⟩ := exists_lists_parenthesized h
  refine ⟨⟨.function, w⟩ :: ls, fun _ _ _ hrests => ?_, fun ts hts => ?_⟩
  · simp only [String.toList_append, List.append_assoc]
    exact lists_function (hlists hrests) hw hopens
  · obtain ⟨t, us, rfl, ht, hus⟩ := List.map_eq_cons_iff.1 hts
    exact hE t us (congrArg Lexeme.kind ht) (congrArg Lexeme.text ht) (hphrase us hus)

end Dialect

end RowSieve

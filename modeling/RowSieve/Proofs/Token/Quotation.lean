import RowSieve.Proofs.Token.Reading
import RowSieve.Proofs.Token.Spelling

/-!
# Quoted literals

`Literal.Inside` lists what may stand between the quotes of a literal: a quote only in a pair, and a
backslash only in front of a character that it escapes.  A literal `Literal.Closes` if such an
inside is followed by a quote that is not the first of a pair, and only then is it read
(`Literal.read_eq_none_iff`).

`Cursor.next_quotation` puts this together with the spelling of a text: what is written between
quotes is read back, and a quote is an open literal exactly if nothing closes it.
-/

namespace RowSieve

namespace Literal

/-- Characters between the quotes of a literal. -/
inductive Inside (quote : Char) : List Char → Prop where
  /-- There need not be any. -/
  | nil : Inside quote []
  /-- A character that stands for itself. -/
  | plain {c cs} : c ≠ quote → c ≠ '\\' → Inside quote cs → Inside quote (c :: cs)
  /-- A backslash takes any character with it. -/
  | escaped {cs} (c : Char) : Inside quote cs → Inside quote ('\\' :: c :: cs)
  /-- A quote is written twice. -/
  | doubled {cs} : Inside quote cs → Inside quote (quote :: quote :: cs)

/-- A quote that is neither escaped nor one of a pair closes the literal that has been opened. -/
def Closes (quote : Char) (cs : List Char) : Prop :=
  ∃ inside rest, cs = inside ++ quote :: rest ∧ Inside quote inside ∧ rest.head? ≠ some quote

variable {quote : Char} {cs : List Char}

/-- What can stand in front of every inside can be put in front of what closes. -/
theorem Closes.append (h : Closes quote cs) (front : List Char)
    (hfront : ∀ inside, Inside quote inside → Inside quote (front ++ inside)) :
    Closes quote (front ++ cs) := by
  obtain ⟨inside, rest, rfl, hinside, hrest⟩ := h
  exact ⟨front ++ inside, rest, (List.append_assoc ..).symm, hfront inside hinside, hrest⟩

/-- A literal that is read has been closed. -/
theorem closes_of_read {l : Literal} (h : Literal.read quote cs = some l) : Closes quote cs := by
  fun_induction Literal.read quote cs generalizing l with
  | case1 => cases h
  | case2 => exact ⟨[], [], rfl, .nil, by simp⟩
  | case3 => cases h
  | case4 rest ih =>
    obtain ⟨m, hm, -⟩ := Option.map_eq_some_iff.1 h
    exact (ih hm).append [quote, quote] fun _ => .doubled
  | case5 d rest hd => exact ⟨[], d :: rest, rfl, .nil, by simpa using hd⟩
  | case6 d rest _ ih =>
    obtain ⟨m, hm, -⟩ := Option.map_eq_some_iff.1 h
    exact (ih hm).append ['\\', d] fun _ => .escaped d
  | case7 c d rest hquote hc ih =>
    obtain ⟨m, hm, -⟩ := Option.map_eq_some_iff.1 h
    exact (ih hm).append [c] fun _ => .plain hquote hc

/-- A literal is read up to the quote that closes it. -/
theorem Inside.isSome_read (hquote : quote ≠ '\\') {inside rest : List Char}
    (h : Inside quote inside) (hrest : rest.head? ≠ some quote) :
    (Literal.read quote (inside ++ quote :: rest)).isSome = true := by
  induction h with
  | nil =>
    cases rest with
    | nil => simp [Literal.read]
    | cons d rest =>
      have hd : d ≠ quote := by simpa using hrest
      simp [Literal.read, hd]
  | @plain c inside hc hbackslash _ ih =>
    -- At least the closing quote comes behind the character.
    obtain ⟨d, ds, hds⟩ := List.exists_cons_of_ne_nil (l := inside ++ quote :: rest) (by simp)
    rw [List.cons_append, hds, read_cons_cons hc hbackslash, ← hds, Option.isSome_map]
    exact ih
  | escaped c _ ih => simpa [Literal.read, hquote.symm] using ih
  | doubled _ ih => simpa [Literal.read] using ih

/-- **A literal cannot be read exactly if nothing closes it.** -/
theorem read_eq_none_iff (hquote : quote ≠ '\\') :
    Literal.read quote cs = none ↔ ¬ Closes quote cs := by
  rw [← not_iff_not, not_not, ← ne_eq, Option.ne_none_iff_exists']
  refine ⟨fun ⟨_, h⟩ => closes_of_read h, ?_⟩
  rintro ⟨inside, rest, rfl, hinside, hrest⟩
  exact Option.isSome_iff_exists.1 (hinside.isSome_read hquote hrest)

end Literal

namespace Span

variable {quote : Char}

theorem read_quote (hquote : quote = '\'' ∨ quote = '"') (cs : List Char) :
    read (quote :: cs) = quotation quote cs := by
  rcases hquote with rfl | rfl <;> rfl

theorem found_quotation_eq_error_iff {cs : List Char} :
    (quotation quote cs).found = .error .text ↔ Literal.read quote cs = none := by
  unfold quotation
  cases Literal.read quote cs with
  | none => simp
  | some l => simp

end Span

namespace Cursor

variable {c : Cursor} {quote : Char}

theorem skipBlanks_of_quote (hquote : quote = '\'' ∨ quote = '"') {cs : List Char}
    (h : c.rest = quote :: cs) : c.skipBlanks = c :=
  skipBlanks_of_not_isBlank h (by rcases hquote with rfl | rfl <;> decide)

/-- The fault of a span tells which error the next token is. -/
theorem next_eq_openText_iff :
    c.next.1 = .error (.openText c.skipBlanks.position) ↔
      (Span.read c.skipBlanks.rest).found = .error .text := by
  cases h : (Span.read c.skipBlanks.rest).found with
  | ok l => simp [next, h]
  | error f => cases f <;> simp [next, h, Fault.toError]

/-- **A text between quotes is read back, whatever it holds and whatever follows, and a quote opens
a literal without an end exactly if no quote closes it.** -/
theorem next_quotation (hquote : quote = '\'' ∨ quote = '"') :
    (∀ t rest : String, rest.toList.head? ≠ some quote →
      (Cursor.start (Literal.spell quote t ++ rest)).next =
        (.ok ⟨.text, t, 0⟩, ⟨(Literal.spell quote t).utf8ByteSize, rest.toList⟩)) ∧
      ∀ (c : Cursor) (cs : List Char), c.rest = quote :: cs →
        (c.next.1 = .error (.openText c.position) ↔ ¬ Literal.Closes quote cs) := by
  have hbackslash : quote ≠ '\\' := by rcases hquote with rfl | rfl <;> decide
  constructor
  · intro t rest hrest
    have hread : Span.read (Literal.spell quote t ++ rest).toList =
        ⟨.ok ⟨.text, t⟩, (Literal.spell quote t).toList, rest.toList⟩ := by
      rw [String.toList_append]
      exact Span.read_spell hquote t fun _ hc heq => hrest (heq ▸ hc)
    have hquoted : (Literal.spell quote t ++ rest).toList =
        quote :: (t.toList.flatMap (spellInside quote) ++ quote :: rest.toList) := by
      simp [Literal.spell]
    have hblanks : (start (Literal.spell quote t ++ rest)).skipBlanks =
        start (Literal.spell quote t ++ rest) := skipBlanks_of_quote hquote hquoted
    rw [next_of_read (by rw [hblanks]; exact hread), hblanks]
    simp [start, moveTo, byteLength_toList]
  · intro c cs hc
    rw [← Literal.read_eq_none_iff hbackslash, ← Span.found_quotation_eq_error_iff,
      ← Span.read_quote hquote, ← hc]
    have hnext := next_eq_openText_iff (c := c)
    rwa [skipBlanks_of_quote hquote hc] at hnext

/-- Pairs of quotes, at the beginning too, and backslashes: a pair of them inside a text, and one in
front of the only quote that could close a literal. -/
theorem next_quotation_pairs :
    (start "'''it''s\\\\n' x").next = (.ok ⟨.text, "'it's\\n", 0⟩, ⟨12, [' ', 'x']⟩) ∧
      (start "'a''b\\'").next.1 = .error (.openText 0) ∧
      ¬ Literal.Closes '\'' ['a', '\'', '\'', 'b', '\\', '\''] := by
  obtain ⟨hspell, hopen⟩ := next_quotation (show '\'' = '\'' ∨ '\'' = '"' from .inl rfl)
  have herror : (start "'a''b\\'").next.1 = .error (.openText 0) := by rfl
  exact ⟨hspell "'it's\\n" " x" (by decide), herror, (hopen _ _ rfl).1 herror⟩

end Cursor

end RowSieve

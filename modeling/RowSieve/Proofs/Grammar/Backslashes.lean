import RowSieve.Proofs.Grammar.Relabelling

/-!
# Backslashes in literals

A literal spells each backslash in its text with two.  So the texts of the literals of a source have
at most half as many backslashes as the source (`Dialect.two_mul_backslashes_le`).
-/

namespace RowSieve

/-- How many backslashes are in texts. -/
def backslashes (texts : List String) : Nat := (texts.flatMap String.toList).count '\\'

@[simp] theorem backslashes_nil : backslashes [] = 0 := rfl

@[simp] theorem backslashes_cons (s : String) (texts : List String) :
    backslashes (s :: texts) = s.toList.count '\\' + backslashes texts := by
  rw [backslashes, List.flatMap_cons, List.count_append, backslashes]

@[simp] theorem backslashes_append (texts more : List String) :
    backslashes (texts ++ more) = backslashes texts + backslashes more := by
  rw [backslashes, List.flatMap_append, List.count_append, backslashes, backslashes]

theorem backslashes_eq_zero_iff {texts : List String} :
    backslashes texts = 0 ↔ ∀ s ∈ texts, '\\' ∉ s.toList := by
  simp [backslashes, List.count_eq_zero]

theorem backslashes_le_of_sublist {texts more : List String} (h : texts.Sublist more) :
    backslashes texts ≤ backslashes more := by
  induction h with
  | slnil => exact Nat.le_refl _
  | cons s _ ih =>
    rw [backslashes_cons]
    omega
  | cons_cons s _ ih =>
    rw [backslashes_cons, backslashes_cons]
    omega

/-- The texts of the literals among tokens. -/
def literals (tokens : List Token) : List String :=
  (tokens.filter fun t => t.kind = .text).map (·.text)

@[simp] theorem literals_nil : literals [] = [] := rfl

@[simp] theorem literals_append (ts us : List Token) :
    literals (ts ++ us) = literals ts ++ literals us := by simp [literals]

theorem literals_cons_of_text {t : Token} (ht : t.kind = .text) (ts : List Token) :
    literals (t :: ts) = t.text :: literals ts := by simp [literals, ht]

theorem literals_cons_of_ne {t : Token} (ht : t.kind ≠ .text) (ts : List Token) :
    literals (t :: ts) = literals ts := by simp [literals, ht]

/-! ### One literal -/

theorem eq_of_unescape {c : Char} (h : unescape c = '\\') : c = '\\' := by
  unfold unescape at h
  split at h
  · exact absurd h (by decide)
  · split at h
    · exact absurd h (by decide)
    · split at h
      · exact absurd h (by decide)
      · exact h

/-- A backslash comes from two. -/
theorem Literal.two_mul_count_le {quote : Char} {cs : List Char} {l : Literal}
    (h : Literal.read quote cs = some l) : 2 * l.text.count '\\' ≤ l.taken.count '\\' := by
  have hpush {c : Char} {spelling : List Char} {m : Literal}
      (hc : c = '\\' → 2 ≤ spelling.count '\\')
      (hm : 2 * m.text.count '\\' ≤ m.taken.count '\\') :
      2 * (m.push c spelling).text.count '\\' ≤ (m.push c spelling).taken.count '\\' := by
    simp only [push, List.count_cons, List.count_append, beq_iff_eq]
    split
    next heq =>
      have := hc heq
      omega
    next => omega
  fun_induction Literal.read quote cs generalizing l with
  | case1 => cases h
  | case2 => cases h; simp
  | case3 => cases h
  | case4 rest ih =>
    obtain ⟨m, hm, rfl⟩ := Option.map_eq_some_iff.1 h
    exact hpush (fun heq => by simp [heq]) (ih hm)
  | case5 => cases h; simp
  | case6 d rest _ ih =>
    obtain ⟨m, hm, rfl⟩ := Option.map_eq_some_iff.1 h
    exact hpush (fun heq => by simp [eq_of_unescape heq]) (ih hm)
  | case7 c d rest _ hc ih =>
    obtain ⟨m, hm, rfl⟩ := Option.map_eq_some_iff.1 h
    exact hpush (fun heq => absurd heq hc) (ih hm)

namespace Span

variable {c : Char} {cs : List Char} {l : Lexeme}

theorem two_mul_count_le_of_quotation (h : (quotation c cs).found = .ok l) :
    2 * l.text.toList.count '\\' ≤ (quotation c cs).taken.count '\\' := by
  unfold quotation at h ⊢
  split at h
  next m hread =>
    cases h
    rw [String.toList_ofList]
    exact Nat.le_trans (Literal.two_mul_count_le hread) List.count_le_count_cons
  next => cases h

/-- Only quotes make literals. -/
theorem read_eq_quotation (h : (read cs).found = .ok l) (hk : l.kind = .text) :
    ∃ c rest, read cs = quotation c rest := by
  unfold read at h ⊢
  split at h
  · cases h
    cases hk
  · cases h
    cases hk
  · unfold blockComment at h
    split at h
    · cases h
      cases hk
    · cases h
  next c rest _ _ =>
    unfold significant at h ⊢
    split
    · exact ⟨c, rest, rfl⟩
    next hquote =>
      rw [if_neg hquote] at h
      split at h
      · cases h
        cases hk
      · split at h
        · cases h
          cases hk
        · split at h
          next kind size hmark =>
            cases h
            obtain ⟨-, -, hkind⟩ := mark?_spec hmark
            simp [show kind = .text from hk] at hkind
          · cases h

theorem two_mul_count_le_of_read (h : (read cs).found = .ok l) (hk : l.kind = .text) :
    2 * l.text.toList.count '\\' ≤ (read cs).taken.count '\\' := by
  obtain ⟨c, rest, hread⟩ := read_eq_quotation h hk
  rw [hread] at h ⊢
  exact two_mul_count_le_of_quotation h

end Span

/-! ### The literals of a source -/

namespace Cursor

variable {c after : Cursor} {token : Token}

/-- What a token takes from the source has all the backslashes that its text needs. -/
theorem two_mul_count_le_of_next (h : c.next = (.ok token, after)) :
    2 * backslashes (literals [token]) + after.rest.count '\\' ≤ c.rest.count '\\' := by
  obtain ⟨l, hl, rfl, rfl⟩ := next_eq_ok h
  have hrest : (Span.read c.skipBlanks.rest).taken.count '\\' +
      (Span.read c.skipBlanks.rest).rest.count '\\' ≤ c.rest.count '\\' := by
    rw [← List.count_append, Span.taken_append_rest]
    exact (List.dropWhile_suffix _).sublist.count_le _
  by_cases hk : l.kind = .text
  · have hread := Span.two_mul_count_le_of_read hl hk
    rw [literals_cons_of_text hk, literals_nil, backslashes_cons, backslashes_nil]
    simp only [moveTo]
    omega
  · rw [literals_cons_of_ne hk, literals_nil, backslashes_nil]
    simp only [moveTo]
    omega

end Cursor

namespace Dialect

variable {σ : Type} {d : Dialect σ}

/-- Giving kinds to words makes no literals of them. -/
theorem Classifies.literals {token : Token} {p : Prop} {kind : Kind}
    (hd : ∀ w, d.keyword? w ≠ some .text) (h : d.Classifies token p kind) :
    literals [{ token with kind := kind }] = literals [token] := by
  cases h with
  | other => rfl
  | keyword hk hw =>
    have hkind : kind ≠ .text := fun heq => hd _ (heq ▸ keyword?_eq_some_iff.2 hw)
    rw [literals_cons_of_ne hkind, literals_cons_of_ne (by simp [hk])]
  | function hk => rw [literals_cons_of_ne (by simp), literals_cons_of_ne (by simp [hk])]
  | word hk => rw [literals_cons_of_ne (by simp), literals_cons_of_ne (by simp [hk])]

theorem Relabelling.two_mul_backslashes_le (hd : ∀ w, d.keyword? w ≠ some .text) {c : Cursor}
    {raw labelled : List Token} (h : d.Relabelling c raw labelled) :
    2 * backslashes (literals labelled) ≤ c.rest.count '\\' := by
  induction h with
  | finish hnext _ =>
    have hle := Cursor.two_mul_count_le_of_next hnext
    omega
  | @token c after token kind raw labelled hnext _ hclass _ ih =>
    have hle := Cursor.two_mul_count_le_of_next hnext
    rw [← hclass.literals hd] at hle
    rw [← List.singleton_append, literals_append, backslashes_append]
    omega

/-- **Half of the backslashes of a source, at most, are in the texts of its literals.** -/
theorem two_mul_backslashes_le [Strategies σ]
    (hlist : ∀ st ∈ d.statements, ∀ c ∈ st.clauses, c.strategy = .list)
    (hd : ∀ w, d.keyword? w ≠ some .text) {source : String} {tokens : List Token}
    (h : d.tokenize source = .ok tokens) :
    2 * backslashes (literals tokens) ≤ source.toList.count '\\' := by
  obtain ⟨raw, hrel⟩ := exists_relabelling hlist h
  exact hrel.two_mul_backslashes_le hd

end Dialect

end RowSieve

import RowSieve.Function.Library
import RowSieve.Proofs.Decimal.Whole

/-!
# What the functions at hand give

A function may look for an argument that it is not given, and that is the end of the program.  Whole
numbers have 64 bits, and a larger one would come out as another.  Neither happens to the functions
of `Functions.builtin`: where they accept the number of arguments they do not end the program, and a
whole number that they give is the one that `Function.Computes` says, worked out among all whole
numbers (`sound_of_builtin`).

Both come from one statement about computations, `Function.Meets`, with a lemma for each way of
putting them together and one for each function; `builtin_induct` has a case for each of these.
-/

namespace RowSieve

namespace Function

variable {α β : Type} {x : Except Refusal α} {f : α → Except Refusal β} {P : α → Prop} {Q : β → Prop}
  {arguments : List Value} {name : String}

/-! ### Functions at hand, one after the other -/

/-- A function that is found among those that were registered is one of them. -/
theorem exists_mem_of_get?_foldl_register {l : List (String × Function)} {fs : Functions}
    {g : Function}
    (h : (l.foldl (fun fs (f : String × Function) => fs.register f.1 f.2) fs).get? name = some g) :
    (∃ key, Text.lowercase name = Text.lowercase key ∧ (key, g) ∈ l) ∨ fs.get? name = some g := by
  induction l generalizing fs with
  | nil => exact .inr h
  | cons entry l ih =>
    rcases ih h with ⟨key, hkey, hmem⟩ | hget
    · exact .inl ⟨key, hkey, .tail _ hmem⟩
    · have hinsert : (fs.table.insert (Text.lowercase entry.1) entry.2).get?
          (Text.lowercase name) = some g := hget
      rw [Dictionary.get?_insert] at hinsert
      split at hinsert
      next heq =>
        cases hinsert
        exact .inl ⟨entry.1, heq, .head _⟩
      next => exact .inr hinsert

/-- What holds of each function at hand under its name holds of what a name is looked up as. -/
theorem builtin_induct {P : String → Function → Prop}
    (upper : P "upper" (.exact 1 (onText Text.uppercase)))
    (lower : P "lower" (.exact 1 (onText Text.lowercase)))
    (trim : P "trim" (.exact 1 (onText Text.trim)))
    (hlength : P "length" (.exact 1 length))
    (hconcat : P "concat" (.atLeast 1 concat))
    (contains : P "contains" (.exact 2 (onTexts fun s part => Text.hasPart part s)))
    (startswith : P "startswith" (.exact 2 (onTexts fun s part => part.isPrefixOf s)))
    (endswith : P "endswith" (.exact 2 (onTexts fun s part => part.isSuffixOf s)))
    (matching : P "matches" (.exact 2 matchesPattern))
    (hcoalesce : P "coalesce" (.atLeast 1 coalesce))
    (abs : P "abs" (.exact 1 magnitude))
    (hround : P "round" (.between 1 2 round))
    (type : P "type" (.exact 1 typeOf)) {g : Function}
    (h : Functions.builtin.get? name = some g) : P (Text.lowercase name) g := by
  rcases exists_mem_of_get?_foldl_register h with ⟨key, hkey, hmem⟩ | hempty
  · have hkeys : ∀ key ∈ ["upper", "lower", "trim", "length", "concat", "contains", "startswith",
        "endswith", "matches", "coalesce", "abs", "round", "type"], Text.lowercase key = key := by
      decide +kernel
    simp only [List.mem_cons, Prod.mk.injEq, List.not_mem_nil, or_false] at hmem
    rw [hkey]
    rcases hmem with ⟨rfl, rfl⟩ | ⟨rfl, rfl⟩ | ⟨rfl, rfl⟩ | ⟨rfl, rfl⟩ | ⟨rfl, rfl⟩ | ⟨rfl, rfl⟩ |
      ⟨rfl, rfl⟩ | ⟨rfl, rfl⟩ | ⟨rfl, rfl⟩ | ⟨rfl, rfl⟩ | ⟨rfl, rfl⟩ | ⟨rfl, rfl⟩ | ⟨rfl, rfl⟩ <;>
      rw [hkeys _ (by simp)] <;> assumption
  · cases hempty

/-! ### What a computation meets -/

/-- The computation does not end the program, and what it gives has the property. -/
structure Meets (P : α → Prop) (x : Except Refusal α) : Prop where
  /-- It looks for no argument that is missing. -/
  calm : ∀ c, x ≠ .error (.crash c)
  /-- Its value, if there is one, has the property. -/
  gives : ∀ a, x = .ok a → P a

theorem meets_ok {a : α} (h : P a) : Meets P (.ok a) where
  calm := nofun
  gives := by
    rintro _ ⟨⟩
    exact h

theorem meets_refuse (text : String) : Meets P (refuse text) := ⟨nofun, nofun⟩

theorem Meets.bind (hx : Meets P x) (hf : ∀ a, P a → Meets Q (f a)) : Meets Q (x >>= f) := by
  cases x with
  | ok a => exact hf a (hx.gives a rfl)
  | error e =>
    refine ⟨fun c h => ?_, nofun⟩
    cases h
    exact hx.calm c rfl

theorem meets_argument {index : Nat} (h : index < arguments.length) :
    Meets (fun v => arguments[index]? = some v) (argument arguments index) := by
  have hget := List.getElem?_eq_getElem h
  rw [argument, hget]
  exact meets_ok rfl

theorem meets_textOf (v : Value) (position : String) :
    Meets (fun s => v = (s.map Value.text).getD .null) (textOf v position) := by
  cases v with
  | text | null => exact meets_ok rfl
  | boolean | float | integer => exact meets_refuse _

theorem meets_placesOf (arguments : List Value) : Meets (fun _ => True) (placesOf arguments) := by
  unfold placesOf
  split
  · exact meets_ok trivial
  · split
    · split
      · exact meets_ok trivial
      · exact meets_refuse _
    · exact meets_refuse _

/-! ### One function after the other -/

/-- The whole number that the function of a name has for its arguments, among all whole numbers. -/
inductive Computes (arguments : List Value) : String → Int → Prop where
  /-- The characters of a text are counted. -/
  | length {s} : arguments[0]? = some (.text s) → Computes arguments "length" s.length
  /-- No value has no characters. -/
  | lengthNull : arguments[0]? = some .null → Computes arguments "length" 0
  /-- A number loses its sign. -/
  | abs {n} : arguments[0]? = some (.integer n) → Computes arguments "abs" n.toInt.natAbs
  /-- A whole number stays as it is. -/
  | roundInteger {n} : arguments[0]? = some (.integer n) → Computes arguments "round" n.toInt
  /-- The decimal for a double is rounded. -/
  | roundFloat {x d r} : arguments[0]? = some (.float x) → Decimal.Scaled.ofFloat? x = some d →
    (d.roundTo 0).Is r → Computes arguments "round" r
  /-- The first argument that has a value is a number. -/
  | coalesce {before n after} : arguments = before ++ .integer n :: after →
    (∀ v ∈ before, v = .null) → Computes arguments "coalesce" n.toInt

/-- The texts among the values have room in a memory of 64 bits. -/
def HaveRoom (arguments : List Value) : Prop := ∀ s, .text s ∈ arguments → s.length < 2 ^ 63

/-- The value is a whole number only if it is the one for the arguments. -/
def IsExact (arguments : List Value) (name : String) (v : Value) : Prop :=
  HaveRoom arguments → ∀ n : Int64, v = .integer n → Computes arguments name n.toInt

theorem meets_onText (g : String → String) (h : 0 < arguments.length) :
    Meets (IsExact arguments name) (onText g arguments) :=
  (meets_argument h).bind fun v _ => (meets_textOf v _).bind fun s _ => meets_ok <| by
    cases s <;> nofun

theorem meets_onTexts (test : List Char → List Char → Bool) (h : 1 < arguments.length) :
    Meets (IsExact arguments name) (onTexts test arguments) :=
  (meets_argument (by omega)).bind fun v _ => (meets_textOf v _).bind fun _ _ =>
    (meets_argument h).bind fun w _ => (meets_textOf w _).bind fun _ _ => meets_ok nofun

theorem meets_length (h : 0 < arguments.length) :
    Meets (IsExact arguments "length") (length arguments) := by
  refine (meets_argument h).bind fun v hv => (meets_textOf v _).bind fun s hs => meets_ok ?_
  rintro hroom _ ⟨⟩
  have hfirst := hv.trans (congrArg some hs)
  cases s with
  | none => exact .lengthNull hfirst
  | some s =>
    show Computes arguments "length" (Int64.ofNat s.length).toInt
    rw [Int64.toInt_ofNat_of_lt (hroom s (List.mem_of_getElem? hfirst))]
    exact .length hfirst

theorem meets_matchesPattern (h : 1 < arguments.length) :
    Meets (IsExact arguments name) (matchesPattern arguments) := by
  refine (meets_argument h).bind fun v _ => (meets_textOf v _).bind fun s _ => ?_
  split
  · exact meets_refuse _
  · split
    · exact meets_refuse _
    · refine (meets_argument (by omega)).bind fun w _ => ?_
      split <;> exact meets_ok nofun

theorem meets_coalesce : Meets (IsExact arguments "coalesce") (coalesce arguments) := by
  refine meets_ok fun _ n hn => ?_
  cases hfind : arguments.find? fun v => !v.same .null with
  | none => simp [hfind] at hn
  | some v =>
    obtain rfl : v = .integer n := by simpa [hfind] using hn
    obtain ⟨-, before, after, rfl, hbefore⟩ := List.find?_eq_some_iff_append.1 hfind
    refine .coalesce rfl fun v hv => ?_
    have hnull := hbefore v hv
    cases v with
    | null => rfl
    | boolean | float | integer | text => cases hnull

theorem meets_magnitude (h : 0 < arguments.length) :
    Meets (IsExact arguments "abs") (magnitude arguments) := by
  refine (meets_argument h).bind fun v hv => ?_
  split
  · split
    next hfits =>
      refine meets_ok ?_
      rintro - _ ⟨⟩
      rw [← Int64.ofInt_eq_ofNat, Decimal.toInt_ofInt_of_fits hfits]
      exact .abs hv
    next => exact meets_refuse _
  · exact meets_ok nofun
  · exact meets_ok nofun
  · exact meets_refuse _

theorem meets_roundFloat {x : Float} (hx : arguments[0]? = some (.float x)) (places : Nat) :
    Meets (IsExact arguments "round") (roundFloat x places) := by
  unfold roundFloat
  split
  · exact meets_refuse _
  next d hd =>
    dsimp only
    split
    next n hn =>
      obtain ⟨rfl, hn⟩ := Option.ite_none_right_eq_some.1 hn
      refine meets_ok ?_
      rintro - _ ⟨⟩
      have hwhole := Decimal.Scaled.isInteger_of_scale_eq_zero d.scale_roundTo_zero
      exact .roundFloat hx hd (Decimal.Scaled.is_of_toInt64? hwhole hn)
    next => exact meets_ok nofun

theorem meets_round (h : 0 < arguments.length) :
    Meets (IsExact arguments "round") (round arguments) := by
  refine (meets_placesOf arguments).bind fun places _ => (meets_argument h).bind fun v hv => ?_
  split
  · refine meets_ok ?_
    rintro - _ ⟨⟩
    exact .roundInteger hv
  · exact meets_roundFloat hv places
  · exact meets_ok nofun
  · exact meets_refuse _

theorem meets_typeOf (h : 0 < arguments.length) :
    Meets (IsExact arguments name) (typeOf arguments) := by
  refine (meets_argument h).bind fun v _ => ?_
  split <;> exact meets_ok nofun

/-! ### All functions -/

/-- Given a number of arguments that it accepts, the function does not end the program, and gives
whole numbers only as they are. -/
def Sound (name : String) (f : Function) : Prop :=
  ∀ arguments : List Value, f.accepts arguments.length = true →
    Meets (IsExact arguments name) (f.call arguments)

theorem sound_exact {count : Nat} {call : List Value → Except Refusal Value}
    (h : ∀ arguments, arguments.length = count → Meets (IsExact arguments name) (call arguments)) :
    Sound name (exact count call) := fun arguments haccepts =>
  have ⟨hleast, hmost⟩ := accepts_iff.1 haccepts
  h arguments (Nat.le_antisymm (hmost count rfl) hleast)

/-- **No function at hand looks for an argument that it is not given, and none gives a whole number
but the exact one.** -/
theorem sound_of_builtin {g : Function} (h : Functions.builtin.get? name = some g) :
    Sound (Text.lowercase name) g :=
  builtin_induct (P := Sound)
    (sound_exact fun as has => meets_onText _ (by omega))
    (sound_exact fun as has => meets_onText _ (by omega))
    (sound_exact fun as has => meets_onText _ (by omega))
    (sound_exact fun as has => meets_length (by omega))
    (fun _ _ => meets_ok nofun)
    (sound_exact fun as has => meets_onTexts _ (by omega))
    (sound_exact fun as has => meets_onTexts _ (by omega))
    (sound_exact fun as has => meets_onTexts _ (by omega))
    (sound_exact fun as has => meets_matchesPattern (by omega))
    (fun _ _ => meets_coalesce)
    (sound_exact fun as has => meets_magnitude (by omega))
    (fun _ haccepts => meets_round (accepts_iff.1 haccepts).1)
    (sound_exact fun as has => meets_typeOf (by omega)) h

end Function

end RowSieve

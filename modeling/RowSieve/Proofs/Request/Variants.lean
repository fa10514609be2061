import RowSieve.Proofs.Grammar.Established
import RowSieve.Proofs.Grammar.Variants
import RowSieve.Proofs.Request.Incomplete
import RowSieve.Proofs.Request.Scripts
import RowSieve.Query

/-!
# What the settings of a dialect change

A dialect that is less strict and one that records other things in predicates read the same requests
as far as they can (`Switches.variants_agree`).

The readers of a dialect and of its variant run side by side on one stream.  As long as both go on,
the stream is the same, and their requests differ in what the predicates record (`Parse.Tracks`).
There is one lemma for each reader that looks at the dialect.  The strictness is looked at in one
place only, behind a complete statement, so the first run may fail where the second goes on, but
only with `SourceError.trailing`.
-/

namespace RowSieve

open TokenStream

/-! ### Names in predicates -/

namespace Dictionary

variable {α : Type}

/-- Each name that has a value, under itself. -/
def ofNames (d : Dictionary α) : Dictionary String :=
  d.entries.foldl (fun e p => e.insert p.1 p.1) empty

theorem get?_ofNames (d : Dictionary α) (name : String) :
    d.ofNames.get? name = (d.get? name).map fun _ => name :=
  get?_foldl_entries d (fun name _ => name) name

theorem ofNames_insert (d : Dictionary α) (name : String) (value : α) :
    (d.insert name value).ofNames = d.ofNames.insert name name := by
  refine ext_get? fun key => ?_
  rw [get?_ofNames, get?_insert, get?_insert, get?_ofNames]
  split
  next h => rw [h]; rfl
  next => rfl

end Dictionary

/-- What a dialect with this recording has in place of the operands. -/
def Recording.ofOperands : Recording → Dictionary String → Dictionary String
  | .operand, operands => operands
  | .fieldName, operands => operands.ofNames

namespace Request

/-- The request with the names of the fields in its predicates. -/
def namingFields (r : Request) : Request := { r with predicates := r.predicates.ofNames }

/-- The request of a dialect that records operands, in a dialect with another recording. -/
def recordedAs (r : Request) (recording : Recording) : Request :=
  { r with predicates := recording.ofOperands r.predicates }

theorem recordedAs_addPredicate (r : Request) (recording : Recording) (field : String)
    (operator : Operator) (operand : String) :
    (r.addPredicate .operand field operator operand).recordedAs recording =
      (r.recordedAs recording).addPredicate recording field operator operand := by
  cases recording with
  | operand => rfl
  | fieldName =>
    have hnames : (r.predicates.insert field operand).ofNames =
        r.predicates.ofNames.insert field field := Dictionary.ofNames_insert ..
    rw [recordedAs, addPredicate, addPredicate, Recording.ofOperands, hnames]
    rfl

theorem recordedAs_blank (kind : StatementKind) (recording : Recording) :
    (blank kind).recordedAs recording = blank kind := by
  cases recording with
  | operand => rfl
  | fieldName => rfl

end Request

/-! ### Readers side by side -/

namespace Parse

variable {α β γ δ : Type} {spared : SourceError → Prop} {R : α → β → Prop} {S : γ → δ → Prop}

/-- What becomes of two readers on one stream: they fail alike, or come to related results in the
same place.  If the first fails with an error that is spared, the second does what it likes. -/
inductive Parallel (spared : SourceError → Prop) (R : α → β → Prop) :
    EStateM.Result SourceError TokenStream α → EStateM.Result SourceError TokenStream β → Prop where
  /-- Both come to a result. -/
  | ok {a : α} {b : β} {t : TokenStream} : R a b → Parallel spared R (.ok a t) (.ok b t)
  /-- Both fail. -/
  | error (e : SourceError) (t : TokenStream) : Parallel spared R (.error e t) (.error e t)
  /-- The first fails and the second is spared. -/
  | spare {e : SourceError} {t : TokenStream}
    {result : EStateM.Result SourceError TokenStream β} :
    spared e → Parallel spared R (.error e t) result

/-- The second reader does what the first one does, on all streams. -/
def Tracks (spared : SourceError → Prop) (R : α → β → Prop) (p : Parse α) (q : Parse β) : Prop :=
  ∀ s, Parallel spared R (p s) (q s)

theorem tracks_refl (p : Parse α) : Tracks spared Eq p p := by
  intro s
  cases p s with
  | ok a t => exact .ok rfl
  | error e t => exact .error e t

theorem tracks_pure {a : α} {b : β} (h : R a b) : Tracks spared R (pure a) (pure b) :=
  fun _ => .ok h

variable {p : Parse α} {q : Parse β} {f : α → Parse γ} {g : β → Parse δ}

theorem Tracks.bind (h : Tracks spared R p q) (hf : ∀ a b, R a b → Tracks spared S (f a) (g b)) :
    Tracks spared S (p >>= f) (q >>= g) := by
  intro s
  change Parallel spared S (EStateM.bind p f s) (EStateM.bind q g s)
  unfold EStateM.bind
  have hs := h s
  generalize p s = a at hs
  generalize q s = b at hs
  cases hs with
  | ok hab => exact hf _ _ hab _
  | error e t => exact .error e t
  | spare he => exact .spare he

/-- Both begin with the same reader. -/
theorem tracks_bind {f g : α → Parse β} {R : β → β → Prop} (p : Parse α)
    (hf : ∀ a, Tracks spared R (f a) (g a)) : Tracks spared R (p >>= f) (p >>= g) :=
  (tracks_refl p).bind fun a _ hab => hab ▸ hf a

theorem Tracks.eval_eq {g : α → β} (h : Tracks spared (fun a b => b = g a) p q)
    (s : TokenStream) :
    q.eval s = (p.eval s).map g ∨ ∃ e, p.eval s = .error e ∧ spared e := by
  unfold Parse.eval
  have hs := h s
  generalize p s = a at hs
  generalize q s = b at hs
  cases hs with
  | ok hab => exact .inl (congrArg _ hab)
  | error e t => exact .inl rfl
  | spare he => exact .inr ⟨_, rfl, he⟩

/-! ### The readers of a dialect and of its variant -/

section Variants

variable {σ : Type} (d : Dialect σ) (strict : Bool) (recording : Recording)

/-- The second request is the first one, with what the variant records. -/
def Rerecorded (r r' : Request) : Prop := r' = r.recordedAs recording

theorem tracks_columnsWithin (bound : Nat) :
    Tracks spared Eq (columnsWithin d bound)
      (columnsWithin (d.variant strict recording) bound) := by
  induction bound with
  | zero => exact tracks_refl _
  | succ bound ih =>
    refine tracks_bind _ fun column => tracks_bind _ fun token? => ?_
    split
    · exact ih.bind fun _ _ heq => heq ▸ tracks_refl _
    · exact tracks_refl _

theorem tracks_predicatesWithin (hd : d.recording = .operand) (bound : Nat) {r r' : Request}
    (hr : Rerecorded recording r r') :
    Tracks spared (Rerecorded recording) (predicatesWithin d bound r)
      (predicatesWithin (d.variant strict recording) bound r') := by
  induction bound generalizing r r' with
  | zero => exact fun s => .error _ _
  | succ bound ih =>
    refine tracks_bind _ fun ⟨field, operator, operand⟩ => tracks_bind _ fun next => ?_
    have hadded : Rerecorded recording (r.addPredicate d.recording field operator operand)
        (r'.addPredicate recording field operator operand) := by
      rw [Rerecorded, hd, r.recordedAs_addPredicate, ← hr]
    split
    · exact tracks_bind _ fun _ => ih hadded
    · exact fun s => .error _ _
    · change Tracks _ _ (if endsClause d next then _ else _) (if endsClause d next then _ else _)
      split
      · exact tracks_pure hadded
      · exact fun s => .error _ _

theorem tracks_read (hd : d.recording = .operand) (body : Body) {r r' : Request}
    (hr : Rerecorded recording r r') :
    Tracks spared (Rerecorded recording) (body.read d r)
      (body.read (d.variant strict recording) r') := by
  refine tracks_bind _ fun bound => ?_
  cases body with
  | columns =>
    refine (tracks_columnsWithin d strict recording _).bind fun found _ heq => tracks_pure ?_
    rw [hr, ← heq]
    rfl
  | source =>
    refine tracks_bind _ fun found => tracks_pure ?_
    rw [hr]
    rfl
  | predicates => exact tracks_predicatesWithin d strict recording hd _ hr
  | limit =>
    refine tracks_bind _ fun found => tracks_pure ?_
    rw [hr]
    rfl

theorem tracks_readClauses (hd : d.recording = .operand) (clauses : List (Clause σ))
    {r r' : Request} (hr : Rerecorded recording r r') :
    Tracks spared (Rerecorded recording) (readClauses d clauses r)
      (readClauses (d.variant strict recording) clauses r') := by
  induction clauses generalizing r r' with
  | nil => exact tracks_pure hr
  | cons clause clauses ih =>
    refine tracks_bind _ fun found => ?_
    split
    · refine tracks_bind _ fun _ => ?_
      exact (tracks_read d strict recording hd _ hr).bind fun _ _ => ih
    · split
      · exact ih hr
      · exact fun s => .error _ _

theorem tracks_readStatement (hd : d.recording = .operand) :
    Tracks spared (Rerecorded recording) (readStatement d)
      (readStatement (d.variant strict recording)) := by
  refine tracks_bind _ fun first => ?_
  rw [Dialect.statement?_variant]
  split
  · exact fun s => .error _ _
  next statement _ =>
    have hblank : Rerecorded recording (.blank statement.kind) (.blank statement.kind) :=
      (Request.recordedAs_blank _ _).symm
    refine (tracks_readClauses d strict recording hd _ hblank).bind fun r r' hr => ?_
    refine tracks_bind _ fun comments => tracks_pure ?_
    rw [hr]
    rfl

/-- The error is that the source goes on, and the variant does not mind. -/
def Spared (e : SourceError) : Prop := e.IsTrailing ∧ d.strict ≠ strict

variable {d strict}

theorem tracks_finishStatement (hstrict : strict = true → d.strict = true) :
    Tracks (Spared d strict) Eq (finishStatement d)
      (finishStatement (d.variant strict recording)) := by
  intro s
  cases hend : s.current.isEnd with
  | true =>
    rw [finishStatement_of_isEnd hend, finishStatement_of_isEnd hend]
    exact tracks_refl _ s
  | false =>
    cases hd : d.strict with
    | true =>
      rw [finishStatement_of_strict hd hend]
      cases strict with
      | true =>
        rw [finishStatement_of_strict rfl hend]
        exact .error _ _
      | false => exact .spare ⟨⟨_, rfl⟩, by simp [hd]⟩
    | false =>
      have hlenient : (d.variant strict recording).strict = false := by
        by_contra h
        rw [hstrict (Bool.of_not_eq_false h)] at hd
        cases hd
      rw [finishStatement_of_lenient hd hend, finishStatement_of_lenient hlenient hend]
      exact tracks_refl _ s

theorem tracks_oneStatement (hd : d.recording = .operand)
    (hstrict : strict = true → d.strict = true) :
    Tracks (Spared d strict) (Rerecorded recording) (oneStatement d)
      (oneStatement (d.variant strict recording)) := by
  refine (tracks_readStatement d strict recording hd).bind fun r r' hr => ?_
  exact (tracks_finishStatement recording hstrict).bind fun _ _ _ => tracks_pure hr

theorem tracks_statementsWithin (hd : d.recording = .operand)
    (hstrict : strict = true → d.strict = true) (bound : Nat) :
    Tracks (Spared d strict) (fun rs rs' => rs' = rs.map (·.recordedAs recording))
      (statementsWithin d bound) (statementsWithin (d.variant strict recording) bound) := by
  induction bound with
  | zero => exact tracks_pure rfl
  | succ bound ih =>
    refine tracks_bind _ fun left => tracks_bind _ fun _ => tracks_bind _ fun finished => ?_
    split
    · exact tracks_pure rfl
    · refine (tracks_readStatement d strict recording hd).bind fun r r' hr => ?_
      refine (tracks_finishStatement recording hstrict).bind fun _ _ _ => ?_
      refine ih.bind fun rs rs' hrs => tracks_pure ?_
      rw [List.map_cons, ← hrs, ← hr]

theorem tracks_allStatements (hd : d.recording = .operand)
    (hstrict : strict = true → d.strict = true) :
    Tracks (Spared d strict) (fun rs rs' => rs' = rs.map (·.recordedAs recording))
      (allStatements d) (allStatements (d.variant strict recording)) :=
  tracks_bind _ fun _ => tracks_statementsWithin recording hd hstrict _

end Variants

end Parse

/-! ### Input behind a statement -/

namespace TokenStream

variable {σ : Type} {d : Dialect σ}

theorem exists_skipToEnd (bound : Nat) (s : TokenStream) : ∃ t, skipToEnd bound s = .ok () t := by
  induction bound generalizing s with
  | zero => exact ⟨s, rfl⟩
  | succ bound ih =>
    rw [skipToEnd, bind_peek]
    split
    · exact ⟨s, rfl⟩
    · exact ih s.tail

theorem exists_eat (kind : Kind) (s : TokenStream) :
    ∃ t, (do let _ ← eat kind : Parse Unit) s = .ok () t := by
  by_cases hk : s.current.kind = kind
  · exact ⟨s.tail, by rw [bind_eat_of_kind hk]; rfl⟩
  · exact ⟨s, by rw [bind_eat_of_kind_ne hk]; rfl⟩

/-- A lenient reader comes to the end of a statement. -/
theorem exists_finishStatement_of_lenient (hd : d.strict = false) (s : TokenStream) :
    ∃ t, finishStatement d s = .ok () t := by
  cases hend : s.current.isEnd with
  | true =>
    rw [finishStatement_of_isEnd hend]
    exact exists_eat .endOfStatement s
  | false =>
    rw [finishStatement_of_lenient hd hend]
    obtain ⟨t, ht⟩ := exists_skipToEnd s.rest.length s
    rw [bind_of_ok ht]
    exact exists_eat .endOfStatement t

/-- Where a source goes on behind a statement, the statement has been read. -/
theorem exists_readStatement_of_trailing {s : TokenStream} {e : SourceError}
    (h : (oneStatement d).eval s = .error e) (he : e.IsTrailing) :
    ∃ r t, readStatement d s = .ok r t := by
  cases hread : readStatement d s with
  | ok r t => exact ⟨r, t, rfl⟩
  | error e' t =>
    have hrun : oneStatement d s = .error e' t := by
      change EStateM.bind (readStatement d) _ s = _
      simp only [EStateM.bind, hread]
    rw [Parse.eval, hrun] at h
    cases h
    exact absurd he (Parse.incomplete_readStatement d s _ _ hread)

/-- Reading a statement is enough for a lenient reader. -/
theorem exists_eval_oneStatement (hd : d.strict = false) {s t : TokenStream} {r : Request}
    (h : readStatement d s = .ok r t) : ∃ r', (oneStatement d).eval s = .ok r' := by
  obtain ⟨u, hu⟩ := exists_finishStatement_of_lenient hd t
  refine ⟨r, eval_eq_ok.2 ⟨u, ?_⟩⟩
  rw [oneStatement, bind_of_ok h, bind_of_ok hu]
  rfl

end TokenStream

/-! ### Sources -/

namespace Dialect

variable {d : Dialect Empty} (strict : Bool) (recording : Recording) (source : String)

theorem stream_variant :
    (d.variant strict recording).stream source = d.stream source := by
  rw [stream, tokenize_variant, stream]

variable {source} in
/-- What is no token is not behind a statement. -/
theorem not_isTrailing_of_stream
    (hlist : ∀ st ∈ d.statements, ∀ c ∈ st.clauses, c.strategy = .list) {e : SourceError}
    (h : d.stream source = .error e) : ¬ e.IsTrailing := by
  cases htokens : d.tokenize source with
  | ok tokens => simp [stream, htokens, Except.map] at h
  | error e' =>
    rw [stream, htokens] at h
    cases h
    obtain ⟨fault, _, -, rfl⟩ := Cursor.exists_fault_of_tokens
      (((tokenize_relabels d hlist source).1 _).1 htokens)
    rintro ⟨token, htoken⟩
    cases fault <;> cases htoken

/-- What becomes of a source in a dialect and in its variant. -/
theorem eval_variant {α : Type} {spared : SourceError → Prop} {p q : Parse α} {g : α → α}
    (h : p.Tracks spared (fun a b => b = g a) q) :
    ((d.variant strict recording).stream source).bind q.eval =
        ((d.stream source).bind p.eval).map g ∨
      ∃ e, (d.stream source).bind p.eval = .error e ∧ spared e := by
  rw [stream_variant]
  cases d.stream source with
  | error e => exact .inl rfl
  | ok s => exact h.eval_eq s

section Operands

variable (hd : d.recording = .operand)
include hd

theorem parse_variant (hstrict : strict = true → d.strict = true) :
    parse (d.variant strict recording) source =
        (parse d source).map (·.recordedAs recording) ∨
      ∃ e, parse d source = .error e ∧ Parse.Spared d strict e :=
  eval_variant strict recording source (Parse.tracks_oneStatement recording hd hstrict)

theorem parseScript_variant (hstrict : strict = true → d.strict = true) :
    parseScript (d.variant strict recording) source =
        (parseScript d source).map (List.map (·.recordedAs recording)) ∨
      ∃ e, parseScript d source = .error e ∧ Parse.Spared d strict e :=
  eval_variant strict recording source (Parse.tracks_allStatements recording hd hstrict)

/-- Where the source goes on behind a statement, a lenient variant has a request. -/
theorem exists_parse_of_trailing {source : String}
    (hlist : ∀ st ∈ d.statements, ∀ c ∈ st.clauses, c.strategy = .list) {e : SourceError}
    (h : parse d source = .error e) (he : e.IsTrailing) :
    ∃ r, parse (d.variant false recording) source = .ok r := by
  rw [parse, stream_variant]
  rw [parse] at h
  cases hs : d.stream source with
  | error e' =>
    rw [hs] at h
    cases h
    exact absurd he (not_isTrailing_of_stream hlist hs)
  | ok s =>
    rw [hs] at h
    obtain ⟨r, t, hr⟩ := exists_readStatement_of_trailing h he
    have htracks : Parse.Parallel (fun _ => False) (Parse.Rerecorded recording) _ _ :=
      Parse.tracks_readStatement d false recording hd s
    rw [hr] at htracks
    generalize hr' : readStatement (d.variant false recording) s = result at htracks
    cases htracks with
    | ok => exact exists_eval_oneStatement rfl hr'

end Operands

end Dialect

/-! ### The stock dialect -/

namespace Switches

/-- What predicates record. -/
def recording (switches : Switches) : Recording :=
  if switches.fieldNames then .fieldName else .operand

/-- The same strictness, with operands in the predicates. -/
def operands (switches : Switches) : Switches := ⟨switches.lenient, false⟩

variable (switches : Switches) (source : String)

theorem parse_recorded :
    parse switches.declarations.dialect source =
      (parse switches.operands.declarations.dialect source).map
        (·.recordedAs switches.recording) := by
  have hd : switches.operands.declarations.dialect.recording = .operand := rfl
  have h := Dialect.parse_variant _ switches.recording source hd fun hstrict => hstrict
  exact h.resolve_right fun ⟨_, _, hspared⟩ => hspared.2 rfl

theorem parseScript_recorded :
    parseScript switches.declarations.dialect source =
      (parseScript switches.operands.declarations.dialect source).map
        (List.map (·.recordedAs switches.recording)) := by
  have hd : switches.operands.declarations.dialect.recording = .operand := rfl
  have h := Dialect.parseScript_variant _ switches.recording source hd fun hstrict => hstrict
  exact h.resolve_right fun ⟨_, _, hspared⟩ => hspared.2 rfl

theorem eq_error_of_map {α β : Type} {x : Except SourceError α} {g : α → β} {e : SourceError}
    (h : x.map g = .error e) : x = .error e := by
  cases x with
  | ok a => cases h
  | error e' =>
    cases h
    rfl

/-- What an outcome is when input behind a statement does not matter: the same, unless that input
was the error. -/
theorem eq_of_relaxed {α : Type} {x y z : Except SourceError α} {g : α → α} (hy : y = x.map g)
    (hz : z = x.map g ∨ ∃ e : SourceError, x = .error e ∧ e.IsTrailing) :
    (∀ a, y = .ok a → z = .ok a) ∧ ∀ e, y = .error e → ¬ e.IsTrailing → z = .error e := by
  rcases hz with rfl | ⟨e, rfl, he⟩
  · rw [hy]
    exact ⟨fun _ ha => ha, fun _ he _ => he⟩
  · refine ⟨fun a ha => ?_, fun e' he' hne => ?_⟩
    · rw [hy] at ha
      cases ha
    · cases eq_error_of_map (hy ▸ he')
      exact absurd he hne

/-- **The switches change only what they promise.**  A lenient dialect reads all that the strict one
reads, and its errors are those of the strict one but for input behind a statement, with which it
can read the first statement.  Recording the names of fields changes nothing else but the predicates
of the requests, where each field then has its own name. -/
theorem variants_agree {registry : Registry} {dialect : Switches → Dialect Empty}
    (hd : ∀ switches : Switches,
      (switches.declarations.establish registry).1 = .ok (dialect switches)) (source : String) :
    (∀ fieldNames,
      let strict := dialect ⟨false, fieldNames⟩
      let lenient := dialect ⟨true, fieldNames⟩
      ((∀ rs, parseScript strict source = .ok rs → parseScript lenient source = .ok rs) ∧
        ∀ e, parseScript strict source = .error e → ¬ e.IsTrailing →
          parseScript lenient source = .error e) ∧
      ((∀ r, parse strict source = .ok r → parse lenient source = .ok r) ∧
        ∀ e, parse strict source = .error e → ¬ e.IsTrailing →
          parse lenient source = .error e) ∧
      ∀ e, parse strict source = .error e → e.IsTrailing → ∃ r, parse lenient source = .ok r) ∧
    (∀ lenient,
      let operands := dialect ⟨lenient, false⟩
      let names := dialect ⟨lenient, true⟩
      parse names source = (parse operands source).map (·.namingFields) ∧
      parseScript names source = (parseScript operands source).map (List.map (·.namingFields))) ∧
    ∀ (r : Request) (field : String),
      r.namingFields.predicates.get? field = (r.predicates.get? field).map fun _ => field := by
  obtain rfl : dialect = fun switches => switches.declarations.dialect :=
    funext fun switches => Declarations.eq_dialect_of_establish (hd switches)
  refine ⟨fun fieldNames => ?_, fun lenient => ?_, fun r => r.predicates.get?_ofNames⟩
  · -- Both are variants of the strict dialect with operands.
    let strict := (Switches.mk false false).declarations.dialect
    let recording := (Switches.mk true fieldNames).recording
    have hoperand : strict.recording = .operand := rfl
    have hlenient : false = true → strict.strict = true := nofun
    refine ⟨eq_of_relaxed (parseScript_recorded ⟨false, fieldNames⟩ source) ?_,
      eq_of_relaxed (parse_recorded ⟨false, fieldNames⟩ source) ?_, fun e he htrailing => ?_⟩
    · refine (Dialect.parseScript_variant false recording source hoperand hlenient).imp_right ?_
      exact fun ⟨e, he, hspared⟩ => ⟨e, he, hspared.1⟩
    · refine (Dialect.parse_variant false recording source hoperand hlenient).imp_right ?_
      exact fun ⟨e, he, hspared⟩ => ⟨e, he, hspared.1⟩
    · have hparse : parse strict source = .error e :=
        eq_error_of_map (parse_recorded ⟨false, fieldNames⟩ source ▸ he)
      have hlist := strategy_eq_list ⟨false, false⟩
      exact Dialect.exists_parse_of_trailing recording hoperand hlist hparse htrailing
  · exact ⟨parse_recorded ⟨lenient, true⟩ source, parseScript_recorded ⟨lenient, true⟩ source⟩

/-- A word behind the statement is an error for the strict dialect only. -/
theorem variants_agree_trailing_word :
    let dialect := fun switches : Switches => switches.declarations.dialect
    let source := "select a from t where b = 'x' limit 1 c"
    parse (dialect ⟨false, true⟩) source = .error (.trailing ⟨.word, "c", 38⟩) ∧
      ∃ r, parse (dialect ⟨true, false⟩) source = .ok r ∧
        parse (dialect ⟨true, true⟩) source = .ok r.namingFields := by
  have htokens : (Switches.mk false true).declarations.dialect.tokenize
      "select a from t where b = 'x' limit 1 c" =
      .ok [⟨.selectWord, "select", 0⟩, ⟨.word, "a", 7⟩, ⟨.fromWord, "from", 9⟩, ⟨.word, "t", 14⟩,
        ⟨.whereWord, "where", 16⟩, ⟨.word, "b", 22⟩, ⟨.equal, "=", 24⟩, ⟨.text, "x", 26⟩,
        ⟨.limitWord, "limit", 30⟩, ⟨.number, "1", 36⟩, ⟨.word, "c", 38⟩, ⟨.endOfInput, "", 39⟩] :=
    Relay.run_of_afterSteps (n := 40) (by rfl)
  have hstrict : parse (Switches.mk false true).declarations.dialect
      "select a from t where b = 'x' limit 1 c" = .error (.trailing ⟨.word, "c", 38⟩) := by
    rw [parse, Dialect.stream, htokens]
    rfl
  intro dialect source
  have hestablish (switches : Switches) :
      (switches.declarations.establish .shared).1 = .ok (dialect switches) := rfl
  obtain ⟨hrelaxed, hnames, -⟩ := variants_agree hestablish source
  obtain ⟨r', hr'⟩ := (hrelaxed true).2.2 _ hstrict ⟨_, rfl⟩
  refine ⟨hstrict, ?_⟩
  have hmap := (hnames true).1
  rw [hr'] at hmap
  cases hr : parse (dialect ⟨true, false⟩) source with
  | error e =>
    rw [hr] at hmap
    cases hmap
  | ok r =>
    rw [hr] at hmap
    exact ⟨r, rfl, hr'.trans hmap⟩

end Switches

end RowSieve

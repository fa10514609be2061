import RowSieve.Function.Library
import RowSieve.Proofs.Expr.Composition
import RowSieve.Proofs.Expr.Lowering

/-!
# Calls are answered

A program looks its functions up when it runs, and counts their arguments once more.  Both have been
done before: every call in a program that was compiled, from a source or from a request, is
*answered* by the functions it was compiled with.  The two ways to a program check calls at
different points, the one after the arguments have been read and the other before, but the property
of expressions that they establish is the same, `Expr.Answered`.

An answered expression never falls because a function is missing.  That the arguments are never
found to be too few or too many cannot be told from errors, as a function may refuse its arguments
in the same words.  So `Functions.unbounded` answers a wrong number of arguments with anything at
all, and nothing changes.
-/

namespace RowSieve

open Phrase

variable {fs : Functions}

/-! ### Calls in expressions -/

mutual

/-- The calls in an expression, at any depth: the names of the functions and the arguments. -/
def Expr.calls : Expr → List (String × List Expr)
  | .float _ | .integer _ | .text _ | .boolean _ | .null | .field _ => []
  | .binary _ left right => left.calls ++ right.calls
  | .not operand => operand.calls
  | .call function arguments => (function, arguments) :: Expr.callsAll arguments

/-- The calls in expressions. -/
def Expr.callsAll : List Expr → List (String × List Expr)
  | [] => []
  | e :: es => e.calls ++ Expr.callsAll es

end

/-- The calls in a program. -/
def Program.calls (p : Program) : List (String × List Expr) :=
  p.instructions.flatMap fun i => i.expr.calls

/-- There is a function of this name that takes so many arguments. -/
def Functions.Answers (fs : Functions) (name : String) (count : Nat) : Prop :=
  ∃ f, fs.get? name = some f ∧ f.accepts count

theorem get?_register (fs : Functions) (name key : String) (f : Function) :
    (fs.register name f).get? key =
      if Text.lowercase key = Text.lowercase name then some f else fs.get? key :=
  Dictionary.get?_insert _ _ _ _

/-- Every call in an expression is one that the functions answer. -/
def Expr.Answered (fs : Functions) (e : Expr) : Prop :=
  ∀ c ∈ e.calls, fs.Answers c.1 c.2.length

theorem mem_callsAll {c : String × List Expr} {es : List Expr} :
    c ∈ Expr.callsAll es ↔ ∃ e ∈ es, c ∈ e.calls := by
  induction es with
  | nil => simp [Expr.callsAll]
  | cons e es ih => simp [Expr.callsAll, ih]

section

variable {left right operand : Expr} {operator : Operator} {name : String} {arguments : List Expr}

/-- What calls nothing is answered. -/
theorem answered_of_calls {e : Expr} (h : e.calls = []) : e.Answered fs := by
  simp [Expr.Answered, h]

theorem answered_not : (Expr.not operand).Answered fs ↔ operand.Answered fs := by
  simp [Expr.Answered, Expr.calls]

theorem answered_binary :
    (Expr.binary operator left right).Answered fs ↔ left.Answered fs ∧ right.Answered fs := by
  simp only [Expr.Answered, Expr.calls, List.forall_mem_append]

theorem answered_call : (Expr.call name arguments).Answered fs ↔
    fs.Answers name arguments.length ∧ ∀ e ∈ arguments, e.Answered fs := by
  simp only [Expr.Answered, Expr.calls, List.forall_mem_cons, mem_callsAll]
  exact and_congr_right fun _ =>
    ⟨fun h e he c hc => h c ⟨e, he, hc⟩, fun h c ⟨e, he, hc⟩ => h e he c hc⟩

end

/-! ### Answered calls when a program runs -/

/-- The function for any number of arguments.  Where they are too few or too many, the value is
whatever `otherwise` makes of them. -/
def Function.unbounded (otherwise : List Value → Except Refusal Value) (f : Function) : Function :=
  ⟨0, none, fun values => if f.accepts values.length then f.call values else otherwise values⟩

/-- The functions for any numbers of arguments, under the same names. -/
def Functions.unbounded (fs : Functions) (otherwise : List Value → Except Refusal Value) :
    Functions :=
  ⟨fs.table.map (Function.unbounded otherwise)⟩

variable {otherwise : List Value → Except Refusal Value} {written read : Row}

theorem get?_unbounded (name : String) :
    (fs.unbounded otherwise).get? name = (fs.get? name).map (Function.unbounded otherwise) :=
  Dictionary.get?_map _ _ _

theorem accepts_unbounded (f : Function) (count : Nat) :
    (f.unbounded otherwise).accepts count = true := by
  simp [Function.unbounded, Function.accepts]

theorem length_evalAll {es : List Expr} {values : List Value}
    (h : evalAll fs written read es = .ok values) : values.length = es.length := by
  induction es generalizing values with
  | nil =>
    cases h
    rfl
  | cons e es ih =>
    simp only [evalAll] at h
    split at h
    · cases h
    · obtain ⟨rest, hrest, rfl⟩ := map_eq_ok_iff.1 h
      simp [ih hrest]

/-- A function that takes the arguments does not look at how many it is said to take. -/
theorem applyFunction_unbounded {f : Function} {values : List Value}
    (h : f.accepts values.length) (name : String) :
    applyFunction name (f.unbounded otherwise) values = applyFunction name f values := by
  have hcall : (f.unbounded otherwise).call values = f.call values := if_pos h
  simp only [applyFunction, accepts_unbounded, hcall, h, if_true]

mutual

theorem eval_unbounded : ∀ {e : Expr}, e.Answered fs →
    eval (fs.unbounded otherwise) written read e = eval fs written read e
  | .float _, _ | .integer _, _ | .text _, _ | .boolean _, _ | .null, _ | .field _, _ => rfl
  | .not operand, h => by
    simp only [eval, eval_unbounded (answered_not.1 h)]
  | .binary operator left right, h => by
    simp only [eval, eval_unbounded (answered_binary.1 h).1, eval_unbounded (answered_binary.1 h).2]
  | .call name arguments, h => by
    obtain ⟨⟨f, hf, hcount⟩, harguments⟩ := answered_call.1 h
    simp only [eval, get?_unbounded, hf, Option.map_some, evalAll_unbounded harguments]
    cases hvalues : evalAll fs written read arguments with
    | error e => rfl
    | ok values => exact applyFunction_unbounded (length_evalAll hvalues ▸ hcount) name

theorem evalAll_unbounded : ∀ {es : List Expr}, (∀ e ∈ es, e.Answered fs) →
    evalAll (fs.unbounded otherwise) written read es = evalAll fs written read es
  | [], _ => rfl
  | e :: es, h => by
    obtain ⟨he, hes⟩ := List.forall_mem_cons.1 h
    simp only [evalAll, eval_unbounded he, evalAll_unbounded hes]

end

/-- What falls otherwise, falls otherwise as a part of anything else. -/
theorem error_ne_of_ne {ε α β : Type} {x : Except ε α} {e e' : ε} (hne : x ≠ .error e')
    (hx : x = .error e) : (.error e : Except ε β) ≠ .error e' :=
  fun h => hne (hx.trans (congrArg _ (Except.error.inj h)))

theorem applyFunction_ne_unknownFunction {f : Function} {values : List Value} (name g : String) :
    applyFunction name f values ≠ .error (.error (.unknownFunction g)) := by
  unfold applyFunction
  split
  · split <;> simp
  · simp

mutual

theorem eval_ne_unknownFunction (g : String) : ∀ {e : Expr}, e.Answered fs →
    eval fs written read e ≠ .error (.error (.unknownFunction g))
  | .float _, _ | .integer _, _ | .text _, _ | .boolean _, _ | .null, _ | .field _, _ => nofun
  | .not operand, h => by
    have hoperand := eval_ne_unknownFunction g (answered_not.1 h)
    rw [eval]
    split
    next e he => exact error_ne_of_ne hoperand he
    next => simp
  | .binary operator left right, h => by
    -- Whichever side falls, the result falls with it; the operator itself looks no function up.
    have hleft := eval_ne_unknownFunction g (answered_binary.1 h).1
    have hright := eval_ne_unknownFunction g (answered_binary.1 h).2
    rw [eval]
    split
    next e he => exact error_ne_of_ne hleft he
    next a _ =>
      -- `and` and `or` may do without the right side.
      split
      · simp
      · split
        · simp
        · split
          next e he => exact error_ne_of_ne hright he
          next b _ =>
            intro happly
            nomatch falls_of_applyOperator happly
  | .call name arguments, h => by
    obtain ⟨⟨f, hf, -⟩, harguments⟩ := answered_call.1 h
    have hvalues := evalAll_ne_unknownFunction g harguments
    simp only [eval, hf]
    split
    next e he => exact error_ne_of_ne hvalues he
    next => exact applyFunction_ne_unknownFunction name g

theorem evalAll_ne_unknownFunction (g : String) : ∀ {es : List Expr}, (∀ e ∈ es, e.Answered fs) →
    evalAll fs written read es ≠ .error (.error (.unknownFunction g))
  | [], _ => nofun
  | e :: es, h => by
    obtain ⟨he, hes⟩ := List.forall_mem_cons.1 h
    have hfirst := eval_ne_unknownFunction g he
    have hrest := evalAll_ne_unknownFunction g hes
    rw [evalAll]
    split
    next e he => exact error_ne_of_ne hfirst he
    next => rwa [Ne, map_eq_error_iff]

end

section

variable {is : List Instruction}

theorem run_unbounded (h : ∀ i ∈ is, i.expr.Answered fs) (written : Row) :
    run (fs.unbounded otherwise) read is written = run fs read is written := by
  induction is generalizing written with
  | nil => rfl
  | cons i is ih =>
    obtain ⟨hi, his⟩ := List.forall_mem_cons.1 h
    cases i with
    | filter condition =>
      have hcondition : condition.Answered fs := hi
      simp only [run, eval_unbounded hcondition, ih his]
    | assign target value =>
      have hvalue : value.Answered fs := hi
      simp only [run, eval_unbounded hvalue, ih his]

theorem run_ne_unknownFunction (h : ∀ i ∈ is, i.expr.Answered fs) (written : Row) (g : String) :
    (run fs read is written).1 ≠ .error (.error (.unknownFunction g)) := by
  induction is generalizing written with
  | nil => simp [run]
  | cons i is ih =>
    obtain ⟨hi, his⟩ := List.forall_mem_cons.1 h
    have hne : eval fs written read i.expr ≠ .error (.error (.unknownFunction g)) :=
      eval_ne_unknownFunction g hi
    cases i with
    | filter condition =>
      rw [run]
      split
      next e he => exact error_ne_of_ne hne he
      next v _ =>
        split
        · exact ih his written
        · simp
    | assign target value =>
      rw [run]
      split
      next e he => exact error_ne_of_ne hne he
      next v _ => exact ih his _

end

/-! ### Programs that are read -/

theorem answered_negate {operand : Expr} (h : operand.Answered fs) :
    (Compile.negate operand).Answered fs := by
  cases operand with
  | float | integer => exact answered_of_calls rfl
  | text | boolean | null | field | binary | not | call =>
    exact answered_binary.2 ⟨answered_of_calls rfl, h⟩

theorem compositional_answered (fs : Functions) :
    Compositional fs (fun _ => True) (Expr.Answered fs) where
  integer _ _ _ _ _ := answered_of_calls rfl
  float _ := answered_of_calls rfl
  text _ := answered_of_calls rfl
  boolean _ := answered_of_calls rfl
  null := answered_of_calls rfl
  field _ := answered_of_calls rfl
  binary _ _ _ hleft hright := answered_binary.2 ⟨hleft, hright⟩
  not _ h := answered_not.2 h
  negate _ h := answered_negate h
  call _ _ hf h := answered_call.2 ⟨hf, h⟩

theorem answered_of_compile {source : String} {p : Program} (h : compile fs source = .ok p) :
    ∀ i ∈ p.instructions, i.expr.Answered fs :=
  (compositional_answered fs).of_compile h fun _ _ _ _ => trivial

/-! ### Programs for requests -/

mutual

theorem answered_of_toExpr : ∀ {n : Node} {e : Expr}, n.toExpr fs = .ok e → e.Answered fs
  | .field _, _, h | .text _, _, h => by
    cases h
    exact answered_of_calls rfl
  | .number spelling, _, h => by
    rcases Compile.numberOf_eq_ok h with ⟨n, -, rfl⟩ | ⟨-, x, -, rfl⟩ <;>
    exact answered_of_calls rfl
  | .call function arguments, _, h => by
    simp only [Node.toExpr] at h
    split at h
    · cases h
    next hcheck =>
      obtain ⟨es, hes, rfl⟩ := map_eq_ok_iff.1 h
      obtain ⟨hlen, hanswered⟩ := answered_of_toExprs hes
      exact answered_call.2 ⟨hlen ▸ Compile.checkCall_eq_ok_iff.1 hcheck, hanswered⟩

/-- There are as many expressions as there were arguments. -/
theorem answered_of_toExprs : ∀ {ns : List Node} {es : List Expr}, Node.toExprs fs ns = .ok es →
    ns.length = es.length ∧ ∀ e ∈ es, e.Answered fs
  | [], _, h => by
    cases h
    simp
  | n :: ns, _, h => by
    simp only [Node.toExprs] at h
    split at h
    · cases h
    next e he =>
      obtain ⟨es, hes, rfl⟩ := map_eq_ok_iff.1 h
      obtain ⟨hlen, hanswered⟩ := answered_of_toExprs hes
      exact ⟨by simp [hlen], List.forall_mem_cons.2 ⟨answered_of_toExpr he, hanswered⟩⟩

end

theorem answered_value (v : Value) : v.toExpr.Answered fs := by
  cases v <;> exact answered_of_calls rfl

theorem answered_of_assigns {cs : List Column} {is : List Instruction}
    (h : List.Forall₂ (Column.Assigns fs) cs is) : ∀ i ∈ is, i.expr.Answered fs := by
  induction h with
  | nil => simp
  | cons hassigns _ ih =>
    obtain ⟨e, he, rfl⟩ := hassigns
    exact List.forall_mem_cons.2 ⟨answered_of_toExpr he, ih⟩

theorem answered_of_ofRequest {r : Request} {p : Program} (h : Program.ofRequest fs r = .ok p) :
    ∀ i ∈ p.instructions, i.expr.Answered fs := by
  obtain ⟨is, his, rfl⟩ := Program.ofRequest_eq_ok_iff.1 h
  refine List.forall_mem_append.2 ⟨fun i hi => ?_, answered_of_assigns his⟩
  obtain ⟨⟨field, value⟩, -, rfl⟩ := List.mem_map.1 hi
  exact answered_binary.2 ⟨answered_of_calls rfl, answered_value _⟩

/-! ### Programs -/

/-- **Every call in a program that was compiled is answered.**  It names a function, in whatever
case, which takes as many arguments as the call has.  So no run falls because a function is missing,
and no run comes to a call with too few or too many arguments: whatever these were answered with,
every run would be the same. -/
theorem compiled_calls_answered {fs : Functions} {p : Program}
    (h : (∃ source, compile fs source = .ok p) ∨ ∃ r, Program.ofRequest fs r = .ok p) :
    (∀ name arguments, (name, arguments) ∈ p.calls →
      ∃ f, fs.get? name = some f ∧ f.accepts arguments.length) ∧
    ∀ read written,
      (∀ name, (run fs read p.instructions written).1 ≠ .error (.error (.unknownFunction name))) ∧
      ∀ otherwise, run (fs.unbounded otherwise) read p.instructions written =
        run fs read p.instructions written := by
  have hanswered : ∀ i ∈ p.instructions, i.expr.Answered fs := by
    rcases h with ⟨source, h⟩ | ⟨r, h⟩
    · exact answered_of_compile h
    · exact answered_of_ofRequest h
  refine ⟨fun name arguments hcall => ?_, fun read written => ⟨fun name => ?_, fun otherwise => ?_⟩⟩
  · obtain ⟨i, hi, hmem⟩ := List.mem_flatMap.1 hcall
    exact hanswered i hi (name, arguments) hmem
  · exact run_ne_unknownFunction hanswered written name
  · exact run_unbounded hanswered written

/-- The source `not Upper(x)` compiles where there is a function `upper` of one argument, although
the name is spelled differently, and its one call is answered. -/
theorem compiled_calls_answered_upper :
    (∃ f, (Functions.empty.register "upper" (.exact 1 Function.concat)).get? "Upper" = some f ∧
      f.accepts 1) ∧
    ∀ name, (run (Functions.empty.register "upper" (.exact 1 Function.concat)) .empty
      [.assign "result" (.not (.call "Upper" [.field "x"]))] .empty).1 ≠
        .error (.error (.unknownFunction name)) := by
  generalize hfs : Functions.empty.register "upper" (.exact 1 Function.concat) = fs
  have hupper : fs.get? "Upper" = some (.exact 1 Function.concat) := by
    have hcalled : Text.lowercase "Upper" = "upper" := by decide +kernel
    have hregistered : Text.lowercase "upper" = "upper" := by decide +kernel
    rw [← hfs, get?_register, hcalled, hregistered, if_pos rfl]
  have hscan : scan "not Upper(x)" = .ok [⟨.word, "not", 0⟩, ⟨.word, "Upper", 4⟩,
      ⟨.leftParen, "(", 9⟩, ⟨.word, "x", 10⟩, ⟨.rightParen, ")", 11⟩, ⟨.endOfInput, "", 12⟩] := rfl
  have hx : Expression fs [⟨.word, "x", 10⟩] (.field "x") :=
    .intro <| .operand <| .operand <| .operand (by decide +kernel) <| .operand <| .operand <|
      .operand <| .operand (by decide) <| .field rfl (by decide +kernel)
  have hcall : Primary fs (Expression fs) [⟨.word, "Upper", 4⟩, ⟨.leftParen, "(", 9⟩,
      ⟨.word, "x", 10⟩, ⟨.rightParen, ")", 11⟩] (.call "Upper" [.field "x"]) :=
    .call rfl hupper (.filled rfl (.single hx) rfl) (by decide) (by decide)
  have hnot : Expression fs [⟨.word, "not", 0⟩, ⟨.word, "Upper", 4⟩, ⟨.leftParen, "(", 9⟩,
      ⟨.word, "x", 10⟩, ⟨.rightParen, ")", 11⟩] (.not (.call "Upper" [.field "x"])) :=
    .intro <| .operand <| .operand <| .not (by decide +kernel) <| .operand (by decide +kernel) <|
      .operand <| .operand <| .operand <| .operand (by decide) hcall
  have hprogram := Compile.program_complete
    (.intro semicolons_nil (.single (.bare hnot)) semicolons_nil)
    (t := ⟨.endOfInput, "", 12⟩) rfl
  have htokens : programTokens "not Upper(x)" = .ok ([] ++ [⟨.word, "not", 0⟩, ⟨.word, "Upper", 4⟩,
      ⟨.leftParen, "(", 9⟩, ⟨.word, "x", 10⟩, ⟨.rightParen, ")", 11⟩] ++ [] ++
      [⟨.endOfInput, "", 12⟩]) := by
    rw [programTokens, hscan]
    rfl
  have hcompile : compile fs "not Upper(x)" =
      .ok ⟨[.assign "result" (.not (.call "Upper" [.field "x"]))], none⟩ := by
    rw [compile, htokens]
    exact congrArg (Except.map _) hprogram
  obtain ⟨hcalls, hruns⟩ := compiled_calls_answered (.inl ⟨_, hcompile⟩)
  exact ⟨hcalls "Upper" [.field "x"] (.head _), (hruns .empty .empty).1⟩

end RowSieve

import RowSieve.Proofs.Batch.Limit
import RowSieve.Proofs.Expr.Acceptance
import RowSieve.Proofs.Expr.Lowering
import RowSieve.Proofs.Expr.Sequence
import RowSieve.Proofs.Layout.Decoding

/-!
# Names on printed lines

A program prints its rows with a name for each assignment, in the order of the assignments.  Where
two assignments have one target, the name stands on the line twice, and both times with the value
that was written last (`Job.line_names_assignments`).  So the names are different from each other
exactly if no two assignments of the program, or columns of the request, have the same one.
-/

namespace RowSieve

namespace Job

open Json Layout Phrase

variable {job : Job} {header : List String} {r : Record} {out : Row}

/-- A row that passes a program with assignments is printed as it was written. -/
theorem line?_of_run (houtputs : job.program.outputs ≠ [])
    (hrun : RowSieve.run job.functions (Row.ofRecord header r.fields) job.program.instructions
      .empty = (.ok .passed, out)) :
    job.line? header r = some (job.layout.print job.program.outputs r.line out) := by
  have hempty : job.program.outputs.isEmpty = false := by simpa using houtputs
  simp [line?, report, hrun, hempty, Report.line?, Except.toOption]

/-- The line is a document in which no two values have the same name. -/
def NamesOnce (line : String) : Prop :=
  ∃ number members, parse? line.toList =
      some (.object [("line".toList, .number number), ("values".toList, .object members)]) ∧
    (members.map fun member => decodeText? member.1).Nodup

/-- The values on the line have these names. -/
theorem namesOnce_iff {line : String} {number : List Char} {members : List (List Char × Json)}
    {names : List String}
    (hparse : parse? line.toList =
      some (.object [("line".toList, .number number), ("values".toList, .object members)]))
    (hnames : List.Forall₂ (fun member name => decodeText? member.1 = some name) members names) :
    NamesOnce line ↔ names.Nodup := by
  have hmap : members.map (fun member => decodeText? member.1) = names.map some := by
    rwa [← List.forall₂_eq_eq_eq, List.forall₂_map_left_iff, List.forall₂_map_right_iff]
  rw [← List.nodup_map_iff (Option.some_injective _), ← hmap]
  constructor
  · rintro ⟨_, _, hparse', hnodup⟩
    cases hparse.symm.trans hparse'
    exact hnodup
  · exact fun hnodup => ⟨number, members, hparse, hnodup⟩

/-- A row that passes is printed as a document with the targets of the assignments and what was
written under them. -/
theorem exists_parse?_line? (hjson : job.layout = .json) (houtputs : job.program.outputs ≠ [])
    (hrun : RowSieve.run job.functions (Row.ofRecord header r.fields) job.program.instructions
      .empty = (.ok .passed, out)) :
    ∃ line number members, job.line? header r = some line ∧
      parse? line.toList =
        some (.object [("line".toList, .number number), ("values".toList, .object members)]) ∧
      Decimal.readInt? number = some (r.line : Int) ∧
      List.Forall₂ (fun member name => decodeText? member.1 = some name ∧
        ∃ v, out.get? name = some v ∧ StandsFor member.2 v) members job.program.outputs := by
  obtain ⟨number, members, hparse, hnumber, hmembers⟩ :=
    exists_parse?_print_json job.program.outputs r.line out
  have hwritten : ∀ name ∈ job.program.outputs, ∃ v, out.get? name = some v := by
    intro name hname
    have hmem := (mem_names_run hrun).2 (.inr (mem_outputs_iff.1 hname))
    exact Option.ne_none_iff_exists'.1 (Dictionary.mem_names_iff.1 hmem)
  refine ⟨_, number, members, line?_of_run houtputs hrun, hjson ▸ hparse, hnumber, ?_⟩
  rw [cells, if_neg (by simpa using houtputs), List.forall₂_map_right_iff] at hmembers
  refine ((List.forall₂_and_left _ _).2 ⟨hwritten, hmembers.flip⟩).flip.imp ?_
  rintro member name ⟨⟨v, hv⟩, hname, hstands⟩
  dsimp only at hstands
  rw [hv] at hstands
  exact ⟨hname, v, hv, hstands⟩

/-- **A line has a name for each assignment.**  The names are the targets of the assignments, in
their order, each with the value that was written last under it.  So no name stands on the line
twice exactly if no two assignments have the same target; those of a request are the columns. -/
theorem line_names_assignments {job : Job} {header : List String} {r : Record} {out : Row}
    (houtputs : job.program.outputs ≠ [])
    (hrun : RowSieve.run job.functions (Row.ofRecord header r.fields) job.program.instructions
      .empty = (.ok .passed, out)) :
    (∃ ws, CarriesOut job.functions (Row.ofRecord header r.fields) job.program.instructions .empty
        ws ∧ ws.map (·.1) = job.program.outputs ∧
      ∀ name, out.get? name = ws.reverse.lookup name) ∧
    (job.layout = .text → job.line? header r = some ("line " ++ toString r.line ++ ": " ++
      ", ".intercalate (job.program.outputs.map fun name =>
        name ++ "=" ++ ((out.get? name).getD .null).display))) ∧
    (job.layout = .json → ∃ line number members, job.line? header r = some line ∧
      parse? line.toList =
        some (.object [("line".toList, .number number), ("values".toList, .object members)]) ∧
      Decimal.readInt? number = some (r.line : Int) ∧
      List.Forall₂ (fun member name => decodeText? member.1 = some name ∧
        ∃ v, out.get? name = some v ∧ StandsFor member.2 v) members job.program.outputs ∧
      (NamesOnce line ↔ job.program.outputs.Nodup)) ∧
    ∀ request, Program.ofRequest job.functions request = .ok job.program →
      job.program.outputs = request.columns.map (·.name) := by
  refine ⟨?_, fun htext => ?_, fun hjson => ?_, fun request => Program.outputs_ofRequest⟩
  · obtain ⟨ws, hws, rfl⟩ := exists_carriesOut_of_run hrun
    refine ⟨ws, hws, hws.map_fst, fun name => ?_⟩
    rw [Dictionary.get?_insertAll, Dictionary.get?_empty, Option.or_none]
  · have hempty : job.program.outputs.isEmpty = false := by simpa using houtputs
    rw [line?_of_run houtputs hrun, htext]
    simp [print, cells, cellText, hempty, Function.comp_def]
  · obtain ⟨line, number, members, hline, hparse, hnumber, hmembers⟩ :=
      exists_parse?_line? hjson houtputs hrun
    exact ⟨line, number, members, hline, hparse, hnumber, hmembers,
      namesOnce_iff hparse (hmembers.imp fun _ _ h => h.1)⟩

/-- Two targets stand on the line once each, the one that was assigned first in front. -/
theorem line_names_assignments_once :
    let job : Job := ⟨.empty, ⟨[.assign "b" (.field "x"), .filter (.boolean true),
      .assign "a" (.field "b")], none⟩, .json, ',', 1⟩
    job.program.outputs ≠ [] ∧
      RowSieve.run job.functions (Row.ofRecord ["x"] ["7"]) job.program.instructions .empty =
        (.ok .passed, .ofList [("a", .integer 7), ("b", .integer 7)]) ∧
      ∃ line, job.line? ["x"] ⟨2, ["7"]⟩ = some line ∧ NamesOnce line := by
  intro job
  have houtputs : job.program.outputs = ["b", "a"] := rfl
  have hne : job.program.outputs ≠ [] := by simp [houtputs]
  have hrun : RowSieve.run job.functions (Row.ofRecord ["x"] ["7"]) job.program.instructions
      .empty = (.ok .passed, .ofList [("a", .integer 7), ("b", .integer 7)]) := rfl
  obtain ⟨-, -, hjson, -⟩ := line_names_assignments (r := ⟨2, ["7"]⟩) hne hrun
  obtain ⟨line, -, -, hline, -, -, -, honce⟩ := hjson rfl
  exact ⟨hne, hrun, line, hline, honce.2 (by simp [houtputs])⟩

/-- With two assignments to one target, the name stands on the line twice. -/
theorem exists_not_namesOnce (fs : Functions) (p : Program) (header : List String) (r : Record)
    {name : String} (houtputs : p.outputs = [name, name])
    (hrun : RowSieve.run fs (Row.ofRecord header r.fields) p.instructions .empty =
      (.ok .passed, out)) :
    ∃ line, line? ⟨fs, p, .json, ',', 1⟩ header r = some line ∧ ¬ NamesOnce line := by
  let job : Job := ⟨fs, p, .json, ',', 1⟩
  have hjson : job.layout = .json := rfl
  obtain ⟨line, number, members, hline, hparse, -, hmembers⟩ :=
    exists_parse?_line? hjson (by simp [job, houtputs]) hrun
  refine ⟨line, hline, ?_⟩
  rw [namesOnce_iff hparse (hmembers.imp fun _ _ h => h.1)]
  simp [job, houtputs]

/-- The row of `a := 1; a := 2` is printed with the name `a` twice, and so is that of a request for
the column `a` twice. -/
theorem line_names_repeated :
    (¬ ∀ (fs : Functions) (source : String) (p : Program) (header : List String) (r : Record)
      (line : String), compile fs source = .ok p → p.outputs ≠ [] →
      line? ⟨fs, p, .json, ',', 1⟩ header r = some line → NamesOnce line) ∧
    ¬ ∀ (fs : Functions) (request : Request) (p : Program) (header : List String) (r : Record)
      (line : String), Program.ofRequest fs request = .ok p → p.outputs ≠ [] →
      line? ⟨fs, p, .json, ',', 1⟩ header r = some line → NamesOnce line := by
  constructor
  · intro h
    have hscan : scan "a := 1; a := 2" = .ok [⟨.word, "a", 0⟩, ⟨.assign, ":=", 2⟩,
        ⟨.number, "1", 5⟩, ⟨.endOfStatement, ";", 6⟩, ⟨.word, "a", 8⟩, ⟨.assign, ":=", 10⟩,
        ⟨.number, "2", 13⟩, ⟨.endOfInput, "", 14⟩] := rfl
    have hnumber : ∀ {t : Token} {n : Int64}, t.kind = .number →
        Decimal.readInt64? t.text = some n → Expression .empty [t] (.integer n) := by
      intro t n hk hn
      have hnot : ¬ SpellsWord "not" t := fun h => by simpa [hk] using h.kind
      exact .intro <| .operand <| .operand <| .operand hnot <| .operand <| .operand <| .operand <|
        .operand (by simp [hk]) <| .integer hk hn
    have hinstructions : Instructions .empty ([⟨.word, "a", 0⟩, ⟨.assign, ":=", 2⟩,
        ⟨.number, "1", 5⟩] ++ ⟨.endOfStatement, ";", 6⟩ :: [] ++ [⟨.word, "a", 8⟩,
        ⟨.assign, ":=", 10⟩, ⟨.number, "2", 13⟩])
        [.assign "a" (.integer 1), .assign "a" (.integer 2)] :=
      .cons (.assign rfl rfl (hnumber rfl (by decide)))
        (semicolons_cons.2 ⟨rfl, semicolons_nil⟩)
        (.single (.assign rfl rfl (hnumber rfl (by decide))))
    have hprogram := Compile.program_complete (.intro semicolons_nil hinstructions semicolons_nil)
      (t := ⟨.endOfInput, "", 14⟩) rfl
    have hcompile : compile .empty "a := 1; a := 2" =
        .ok ⟨[.assign "a" (.integer 1), .assign "a" (.integer 2)], none⟩ := by
      rw [compile, programTokens, hscan]
      exact congrArg (Except.map _) hprogram
    obtain ⟨line, hline, hnames⟩ := exists_not_namesOnce .empty
      ⟨[.assign "a" (.integer 1), .assign "a" (.integer 2)], none⟩ ["x"] ⟨2, ["1"]⟩ rfl rfl
    exact hnames (h _ _ _ _ _ line hcompile (by simp [Program.outputs]) hline)
  · intro h
    let request : Request :=
      ⟨.select, [.ofField "a", .ofField "a"], none, .empty, .empty, none, []⟩
    have hrequest : Program.ofRequest .empty request =
        .ok ⟨[.assign "a" (.field "a"), .assign "a" (.field "a")], none⟩ := rfl
    obtain ⟨line, hline, hnames⟩ := exists_not_namesOnce .empty
      ⟨[.assign "a" (.field "a"), .assign "a" (.field "a")], none⟩ ["a"] ⟨2, ["1"]⟩ rfl rfl
    exact hnames (h _ _ _ _ _ line hrequest (by simp [Program.outputs]) hline)

end Job

end RowSieve

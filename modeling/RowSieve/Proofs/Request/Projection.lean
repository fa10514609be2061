import RowSieve.Proofs.Expr.Lowering
import RowSieve.Proofs.Expr.Soundness

/-!
# What requests put out

The columns of a request become assignments, and an assignment sees what has been written before it.
So a column holds the value of its expression on the row of the columns before it, laid over the row
that was read (`ofRequest_projects`).  The columns before it do not matter as long as none of them
goes by a name that the expression mentions, except the field of that name itself.  Columns which
are `Independent` in this way hold values of the row that was read, and their order does not matter.
-/

namespace RowSieve

variable {fs : Functions} {read written written' : Row}

/-! ### Fields of columns -/

namespace Node

mutual

/-- The fields that an expression of a column names. -/
def fields : Node → List String
  | field name => [name]
  | number _ | text _ => []
  | call _ arguments => fieldsAll arguments

/-- The fields that arguments name. -/
def fieldsAll : List Node → List String
  | [] => []
  | n :: ns => n.fields ++ fieldsAll ns

end

mutual

theorem fields_of_toExpr : ∀ {n : Node} {e : Expr}, n.toExpr fs = .ok e → e.fields = n.fields
  | field _, _, h | text _, _, h => by
    cases h
    rfl
  | number spelling, _, h => by
    rcases Compile.numberOf_eq_ok h with ⟨n, -, rfl⟩ | ⟨-, x, -, rfl⟩ <;> rfl
  | call function arguments, _, h => by
    rw [toExpr] at h
    split at h
    · cases h
    · obtain ⟨es, hes, rfl⟩ := map_eq_ok_iff.1 h
      exact fieldsAll_of_toExprs hes

theorem fieldsAll_of_toExprs : ∀ {ns : List Node} {es : List Expr}, toExprs fs ns = .ok es →
    Expr.fieldsAll es = fieldsAll ns
  | [], _, h => by
    cases h
    rfl
  | n :: ns, _, h => by
    rw [toExprs] at h
    split at h
    · cases h
    next e he =>
      obtain ⟨es, hes, rfl⟩ := map_eq_ok_iff.1 h
      rw [Expr.fieldsAll, fieldsAll, fields_of_toExpr he, fieldsAll_of_toExprs hes]

end

end Node

/-! ### Values of columns -/

/-- The expression of the column has this value on the two rows. -/
def Column.Yields (fs : Functions) (written read : Row) (c : Column) (v : Value) : Prop :=
  ∃ e, c.source.toExpr fs = .ok e ∧ eval fs written read e = .ok v

variable {c : Column} {v w : Value} {cs ds : List Column} {is js : List Instruction} {out : Row}

theorem Column.Yields.congr (h : c.Yields fs written read v)
    (heq : ∀ name ∈ c.source.fields, seen written read name = seen written' read name) :
    c.Yields fs written' read v := by
  obtain ⟨e, he, hv⟩ := h
  refine ⟨e, he, ?_⟩
  rw [← hv]
  refine (eval_congr fun name hname => heq name ?_).symm
  rwa [← Node.fields_of_toExpr he]

theorem Column.Yields.unique (hv : c.Yields fs written read v) (hw : c.Yields fs written read w) :
    v = w := by
  obtain ⟨e, he, hv⟩ := hv
  obtain ⟨e', he', hw⟩ := hw
  cases he.symm.trans he'
  exact Except.ok.inj (hv.symm.trans hw)

/-- A column that holds a field has what is seen under that name. -/
theorem Column.Yields.eq_seen {name : String} (h : c.Yields fs written read v)
    (hc : c.source = .field name) : v = seen written read name := by
  obtain ⟨e, he, hv⟩ := h
  rw [hc] at he
  cases he
  exact (Except.ok.inj hv).symm

/-- The first of the columns has a value, and the others are written after it. -/
theorem run_assigns_cons_eq_passed {i : Instruction} (hi : c.Assigns fs i) :
    run fs read (i :: is) written = (.ok .passed, out) ↔
      ∃ v, c.Yields fs written read v ∧
        run fs read is (written.insert c.name v) = (.ok .passed, out) := by
  obtain ⟨e, he, rfl⟩ := hi
  rw [run_assign_eq_passed]
  refine exists_congr fun v => and_congr_left fun _ => ?_
  exact ⟨fun hv => ⟨e, he, hv⟩, fun ⟨e', he', hv⟩ => by
    cases he.symm.trans he'
    exact hv⟩

/-- Names of other columns keep their values. -/
theorem get?_of_run_assigns (h : List.Forall₂ (Column.Assigns fs) cs is) {name : String}
    (hname : name ∉ cs.map (·.name)) {outcome : Except Fall Outcome}
    (hrun : run fs read is written = (outcome, out)) : out.get? name = written.get? name := by
  have hkept : (run fs read is written).2.get? name = written.get? name :=
    get?_run (fun i hi htarget => hname ((Column.exists_target_iff h name).1 ⟨i, hi, htarget⟩)) _
  rwa [hrun] at hkept

/-! ### Columns after columns -/

/-- What is written is there until the end, if no other column has its name. -/
theorem get?_of_run_assigns_cons (h : List.Forall₂ (Column.Assigns fs) cs is)
    (hname : c.name ∉ cs.map (·.name))
    (hrun : run fs read is (written.insert c.name v) = (.ok .passed, out)) :
    out.get? c.name = some v := by
  rw [get?_of_run_assigns h hname hrun, Dictionary.get?_insert_self]

/-- The row written by the first columns is a part of the row written by all of them. -/
theorem eq_filterNames_of_run {between : Row} (hcs : List.Forall₂ (Column.Assigns fs) cs is)
    (hds : List.Forall₂ (Column.Assigns fs) ds js)
    (hdisjoint : ∀ name ∈ cs.map (·.name), name ∉ ds.map (·.name))
    (hbetween : run fs read is .empty = (.ok .passed, between))
    (hrun : run fs read js between = (.ok .passed, out)) :
    between = out.filterNames fun name => name ∈ cs.map (·.name) := by
  refine Dictionary.ext_get? fun name => ?_
  rw [Dictionary.get?_filterNames]
  by_cases hname : name ∈ cs.map (·.name)
  · rw [if_pos (by simpa using hname), get?_of_run_assigns hds (hdisjoint name hname) hrun]
  · rw [if_neg (by simpa using hname), get?_of_run_assigns hcs hname hbetween, Dictionary.get?_empty]

/-- A column has its value on the columns before it. -/
theorem yields_of_run (his : List.Forall₂ (Column.Assigns fs) (cs ++ c :: ds) is)
    (hnodup : ((cs ++ c :: ds).map (·.name)).Nodup)
    (hrun : run fs read is .empty = (.ok .passed, out)) :
    ∃ v, out.get? c.name = some v ∧
      c.Yields fs (out.filterNames fun name => name ∈ cs.map (·.name)) read v := by
  -- Stop the run in front of the column: what has been written then is a part of the whole row.
  obtain ⟨js, ks, rfl, hjs, hks⟩ := Column.exists_assigns_of_append his
  obtain ⟨between, hbetween, hrun⟩ := run_append_eq_passed.1 hrun
  rw [List.map_append] at hnodup
  obtain ⟨-, hnodup, hdisjoint⟩ := List.nodup_append.1 hnodup
  rw [← eq_filterNames_of_run hjs hks (fun name hname hmem => hdisjoint _ hname _ hmem rfl)
    hbetween hrun]
  obtain ⟨i, ls, hi, hls, rfl⟩ := List.forall₂_cons_left_iff.1 hks
  obtain ⟨v, hv, hrun⟩ := (run_assigns_cons_eq_passed hi).1 hrun
  exact ⟨v, get?_of_run_assigns_cons hls (List.nodup_cons.1 hnodup).1 hrun, hv⟩

/-! ### Independent columns -/

/-- A column does not get between another one and the row that is read: the other one does not
mention its name, or it holds the field of that name. -/
def Column.Spares (b c : Column) : Prop := b.name ∈ c.source.fields → b.source = .field b.name

/-- No column gets between a later one and the row that is read. -/
def Column.Independent (cs : List Column) : Prop := cs.Pairwise Column.Spares

/-- The column sees nothing but the row that is read. -/
def Column.SeesRead (written read : Row) (c : Column) : Prop :=
  ∀ name ∈ c.source.fields, seen written read name = seen .empty read name

theorem Column.SeesRead.insert {b : Column} (hb : b.SeesRead written read)
    (hc : c.SeesRead written read) (hspares : b.Spares c) (hv : b.Yields fs written read v) :
    c.SeesRead (written.insert b.name v) read := by
  intro name hname
  rw [seen_insert]
  split
  next heq =>
    -- What has been written under the name is the field itself.
    subst heq
    have hsource := hspares hname
    rw [hv.eq_seen hsource]
    exact hb _ (by simp [hsource, Node.fields])
  next => exact hc name hname

/-- Independent columns hold values of the row that is read. -/
theorem yields_of_independent (his : List.Forall₂ (Column.Assigns fs) cs is)
    (hnodup : (cs.map (·.name)).Nodup) (hcs : Column.Independent cs)
    (hsees : ∀ c ∈ cs, c.SeesRead written read)
    (hrun : run fs read is written = (.ok .passed, out)) :
    ∀ c ∈ cs, ∃ v, out.get? c.name = some v ∧ c.Yields fs .empty read v := by
  -- Whatever has been written, the columns that are left see only the row that is read.
  induction his generalizing written with
  | nil => simp
  | @cons c i cs is hi his ih =>
    obtain ⟨hname, hnodup⟩ := List.nodup_cons.1 hnodup
    obtain ⟨hspares, hcs⟩ := List.pairwise_cons.1 hcs
    obtain ⟨hc, hsees⟩ := List.forall_mem_cons.1 hsees
    obtain ⟨v, hv, hrun⟩ := (run_assigns_cons_eq_passed hi).1 hrun
    refine List.forall_mem_cons.2
      ⟨⟨v, get?_of_run_assigns_cons his hname hrun, hv.congr hc⟩, ?_⟩
    exact ih hnodup hcs (fun d hd => hc.insert (hsees d hd) (hspares d hd) hv) hrun

/-- Independent columns that have values are all written. -/
theorem exists_run_of_independent (his : List.Forall₂ (Column.Assigns fs) cs is)
    (hcs : Column.Independent cs) (hsees : ∀ c ∈ cs, c.SeesRead written read)
    (hyields : ∀ c ∈ cs, ∃ v, c.Yields fs .empty read v) :
    ∃ out, run fs read is written = (.ok .passed, out) := by
  induction his generalizing written with
  | nil => exact ⟨written, rfl⟩
  | @cons c i cs is hi his ih =>
    obtain ⟨hspares, hcs⟩ := List.pairwise_cons.1 hcs
    obtain ⟨hc, hsees⟩ := List.forall_mem_cons.1 hsees
    obtain ⟨⟨v, hv⟩, hyields⟩ := List.forall_mem_cons.1 hyields
    have hv : c.Yields fs written read v := hv.congr fun name hname => (hc name hname).symm
    obtain ⟨out, hout⟩ := ih hcs (fun d hd => hc.insert (hsees d hd) (hspares d hd) hv) hyields
    exact ⟨out, (run_assigns_cons_eq_passed hi).2 ⟨v, hv, hout⟩⟩

theorem seesRead_empty (c : Column) : c.SeesRead .empty read := fun _ _ => rfl

/-- The order of independent columns does not matter. -/
theorem run_eq_of_perm (his : List.Forall₂ (Column.Assigns fs) cs is)
    (hjs : List.Forall₂ (Column.Assigns fs) ds js) (hperm : ds.Perm cs)
    (hnodup : (cs.map (·.name)).Nodup) (hcs : Column.Independent cs) (hds : Column.Independent ds)
    (hrun : run fs read is .empty = (.ok .passed, out)) :
    run fs read js .empty = (.ok .passed, out) := by
  have hyields := yields_of_independent his hnodup hcs (fun c _ => seesRead_empty c) hrun
  obtain ⟨out', hrun'⟩ : ∃ out', run fs read js .empty = (.ok .passed, out') := by
    refine exists_run_of_independent hjs hds (fun c _ => seesRead_empty c) fun c hc => ?_
    obtain ⟨v, -, hv⟩ := hyields c (hperm.mem_iff.1 hc)
    exact ⟨v, hv⟩
  -- The second run passes as well; a column has only one value, so it writes the same row.
  have hnames := hperm.map (·.name)
  have hyields' := yields_of_independent hjs (hnames.nodup_iff.2 hnodup) hds
    (fun c _ => seesRead_empty c) hrun'
  suffices out' = out from this ▸ hrun'
  refine Dictionary.ext_get? fun name => ?_
  by_cases hname : name ∈ ds.map (·.name)
  · obtain ⟨c, hc, rfl⟩ := List.mem_map.1 hname
    obtain ⟨v, hv, hyield⟩ := hyields c (hperm.mem_iff.1 hc)
    obtain ⟨w, hw, hyield'⟩ := hyields' c hc
    rw [hv, hw, hyield.unique hyield']
  · rw [get?_of_run_assigns hjs hname hrun',
      get?_of_run_assigns his (hname ∘ hnames.mem_iff.2) hrun]

/-! ### Requests -/

/-- A row that passes the filters of a request has changed nothing. -/
theorem run_request_eq_passed {r : Request} :
    run fs read (r.filters ++ is) .empty = (.ok .passed, out) ↔
      run fs read r.filters .empty = (.ok .passed, .empty) ∧
        run fs read is .empty = (.ok .passed, out) := by
  have hfilters : (run fs read r.filters .empty).2 = .empty :=
    run_filters_snd (fun i hi => Request.target?_of_mem_filters hi) .empty
  rw [run_append_eq_passed]
  constructor
  · rintro ⟨between, hbetween, hrun⟩
    rw [hbetween] at hfilters
    obtain rfl : between = .empty := hfilters
    exact ⟨hbetween, hrun⟩
  · rintro ⟨hpassed, hrun⟩
    exact ⟨.empty, hpassed, hrun⟩

/-- **A request puts out the values of its columns.**  Each column has the value of its expression
on the row of the columns before it, laid over the row that is read.  Where the columns are
independent, these are the values on the row that is read alone, and with the same columns in any
other order in which they are independent, the request puts the same row out. -/
theorem ofRequest_projects {fs : Functions} {r : Request} {p : Program} {read out : Row}
    (hnodup : (r.columns.map (·.name)).Nodup) (hp : Program.ofRequest fs r = .ok p)
    (hrun : run fs read p.instructions .empty = (.ok .passed, out)) :
    (∀ name, name ∈ out.names ↔ ∃ c ∈ r.columns, c.name = name) ∧
    (∀ before c after, r.columns = before ++ c :: after → ∃ v, out.get? c.name = some v ∧
      c.Yields fs (out.filterNames fun name => name ∈ before.map (·.name)) read v) ∧
    (Column.Independent r.columns →
      (∀ c ∈ r.columns, ∃ v, out.get? c.name = some v ∧ c.Yields fs .empty read v) ∧
      ∀ columns : List Column, columns.Perm r.columns → Column.Independent columns →
        ∃ q, Program.ofRequest fs { r with columns } = .ok q ∧
          run fs read q.instructions .empty = (.ok .passed, out)) := by
  obtain ⟨is, his, rfl⟩ := Program.ofRequest_eq_ok_iff.1 hp
  obtain ⟨hfilters, hrun⟩ := run_request_eq_passed.1 hrun
  refine ⟨fun name => ?_, fun before c after hsplit => ?_, fun hindependent =>
    ⟨yields_of_independent his hnodup hindependent (fun c _ => seesRead_empty c) hrun,
      fun columns hperm hcolumns => ?_⟩⟩
  · rw [mem_names_run hrun, Column.exists_target_iff his, List.mem_map]
    exact or_iff_right (by simp [Dictionary.names, Dictionary.empty])
  · rw [hsplit] at his hnodup
    exact yields_of_run his hnodup hrun
  · obtain ⟨js, hjs⟩ := Column.exists_assigns_iff.2 fun c hc =>
      Column.exists_assigns_iff.1 ⟨is, his⟩ c (hperm.mem_iff.1 hc)
    refine ⟨⟨r.filters ++ js, r.limit⟩, Program.ofRequest_eq_ok_iff.2 ⟨js, hjs, rfl⟩, ?_⟩
    exact run_request_eq_passed.2
      ⟨hfilters, run_eq_of_perm his hjs hperm hnodup hindependent hcolumns hrun⟩

/-- Two fields under new names are independent, in either order. -/
theorem ofRequest_projects_renamed :
    ∃ q, Program.ofRequest .empty ⟨.select, [⟨"y", some (.field "b")⟩, ⟨"x", some (.field "a")⟩],
        none, .empty, .empty, none, []⟩ = .ok q ∧
      run .empty (Dictionary.ofList [("a", .integer 1), ("b", .integer 2)]) q.instructions .empty =
        (.ok .passed, Dictionary.ofList [("x", .integer 1), ("y", .integer 2)]) := by
  have hx : Column.Independent [⟨"x", some (.field "a")⟩, ⟨"y", some (.field "b")⟩] := by
    simp [Column.Independent, Column.Spares, Column.source, Node.fields]
  have hy : Column.Independent [⟨"y", some (.field "b")⟩, ⟨"x", some (.field "a")⟩] := by
    simp [Column.Independent, Column.Spares, Column.source, Node.fields]
  have hrun : run .empty (.ofList [("a", .integer 1), ("b", .integer 2)])
      [.assign "x" (.field "a"), .assign "y" (.field "b")] .empty =
        (.ok .passed, .ofList [("x", .integer 1), ("y", .integer 2)]) := rfl
  obtain ⟨-, -, hall⟩ := ofRequest_projects
    (r := ⟨.select, [⟨"x", some (.field "a")⟩, ⟨"y", some (.field "b")⟩], none, .empty, .empty, none,
      []⟩)
    (p := ⟨[.assign "x" (.field "a"), .assign "y" (.field "b")], none⟩) (by decide) rfl hrun
  exact (hall hx).2 _ (.swap _ _ _) hy

/-- A column that goes by the name of a field gets between that field and the columns after it.  Of
`a AS b, b AS c` the second column holds `a`, and of `b AS c, a AS b` the first one holds `b`. -/
theorem projection_not_of_read_alone :
    (¬ ∀ (fs : Functions) (r : Request) (p : Program) (read out : Row),
      (r.columns.map (·.name)).Nodup → Program.ofRequest fs r = .ok p →
      run fs read p.instructions .empty = (.ok .passed, out) →
      ∀ c ∈ r.columns, ∃ v, out.get? c.name = some v ∧ c.Yields fs .empty read v) ∧
    ¬ ∀ (fs : Functions) (r : Request) (p q : Program) (columns : List Column) (read out : Row),
      (r.columns.map (·.name)).Nodup → Program.ofRequest fs r = .ok p →
      run fs read p.instructions .empty = (.ok .passed, out) → columns.Perm r.columns →
      Program.ofRequest fs { r with columns } = .ok q →
      run fs read q.instructions .empty = (.ok .passed, out) := by
  have hrun : run .empty (.ofList [("a", .integer 1), ("b", .integer 2)])
      [.assign "b" (.field "a"), .assign "c" (.field "b")] .empty =
        (.ok .passed, .ofList [("b", .integer 1), ("c", .integer 1)]) := rfl
  constructor
  · intro h
    obtain ⟨v, hv, hyields⟩ := h .empty ⟨.select, [⟨"b", some (.field "a")⟩,
      ⟨"c", some (.field "b")⟩], none, .empty, .empty, none, []⟩ _ _ _ (by decide) rfl hrun
      ⟨"c", some (.field "b")⟩ (by simp)
    obtain rfl : Value.integer 1 = v := Option.some.inj hv
    cases hyields.eq_seen rfl
  · intro h
    have hswapped := h .empty ⟨.select, [⟨"b", some (.field "a")⟩,
      ⟨"c", some (.field "b")⟩], none, .empty, .empty, none, []⟩ _ _ _ _ _ (by decide) rfl hrun
      (.swap _ _ _) rfl
    have hc := congrArg (fun result => result.2.get? "c") hswapped
    cases hc

end RowSieve

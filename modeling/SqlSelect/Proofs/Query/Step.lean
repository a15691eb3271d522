import SqlSelect.Proofs.Query.Run
import SqlSelect.Proofs.Registry.Bare

namespace SqlSelect

def Call.requests : Call → List String
  | .select request _ _ => [request]
  | .filter _ reference _ _ => (ColumnReference.request? reference).toList
  | .openGroup _ => []
  | .closeGroup => []
  | .join request left right =>
    [request] ++ (ColumnReference.request? left).toList ++ (ColumnReference.request? right).toList
  | .groupBy request _ => [request]
  | .setDialect _ => []
  | .setQualify _ => []

def Call.isBare (call : Call) : Bool := call.requests.all TableRequest.isBare

theorem Call.bare_of_mem (call : Call) (bare : call.isBare = true) (request : String)
    (member : request ∈ call.requests) : TableRequest.isBare request = true :=
  List.all_eq_true.mp bare request member

namespace Query

def succeeds (query : Query) : List Call → Bool
  | [] => true
  | call :: calls => (query.run call).error.isNone && (query.run call).query.succeeds calls

inductive Step (query : Query) : Call → Query → Prop where
  | select (request : String) (columns : List ColumnSpec) (distinct : Bool) (resolved : Resolved)
    (fits : query.operation = none ∨ query.operation = some (.select distinct))
    (found : query.tables.resolve request true = .ok resolved) :
    Step query (.select request columns distinct) (query.selected resolved columns distinct)
  | filter (chain : Chain) (reference : String) (operator : OperatorSpec) (value : Json) (known : Operator)
    (found : ResolvedColumn) (readable : operator.resolve = .ok known)
    (result : query.tables.resolveColumn query.base reference = .ok found) :
    Step query (.filter chain reference operator value)
      { query with
        tables := found.registry
        filters := query.filters.push (.simple chain found.column known value) }
  | openGroup (chain : Chain) :
    Step query (.openGroup chain) { query with filters := query.filters.openGroup chain }
  | closeGroup : Step query .closeGroup { query with filters := query.filters.closeGroup }
  | join (request left right : String) (target : Resolved) (first second : ResolvedColumn)
    (targeted : query.tables.resolve request false = .ok target)
    (opened : target.registry.resolveColumn query.base left = .ok first)
    (closed : first.registry.resolveColumn query.base right = .ok second) :
    Step query (.join request left right)
      { query with
        tables := second.registry
        joints := query.joints ++ [⟨target.id, first.column, second.column⟩] }
  | groupBy (request column : String) (resolved : Resolved) (visible : Text.isAllBlank column = false)
    (found : query.tables.resolve request false = .ok resolved) :
    Step query (.groupBy request column)
      { query with
        tables := resolved.registry
        grouping := some ⟨Text.trim column, none, resolved.id⟩ }
  | setDialect (dialect : Dialect) : Step query (.setDialect dialect) { query with dialect := dialect }
  | setQualify (qualify : Qualify) : Step query (.setQualify qualify) { query with qualify := qualify }

theorem step_of_succeeded (query : Query) (call : Call) (success : (query.run call).error = none) :
    query.Step call (query.run call).query := by
  cases call with
  | select request columns distinct =>
    simp only [run] at success ⊢
    rcases query.fits_or_conflict distinct with fits | ⟨current, set, differs⟩
    · rw [select_of_fits query request columns distinct fits] at success ⊢
      cases found : query.tables.resolve request true with
      | error fault => simp [found, failed] at success
      | ok resolved => exact .select request columns distinct resolved fits found
    · rw [select_of_conflict query request columns distinct current set differs] at success
      cases success
  | filter chain reference operator value =>
    simp only [run, filter] at success ⊢
    cases readable : operator.resolve with
    | error fault => simp [readable, failed] at success
    | ok known =>
      cases result : query.tables.resolveColumn query.base reference with
      | error fault => simp [readable, result, failed] at success
      | ok found => exact .filter chain reference operator value known found readable result
  | openGroup chain => exact .openGroup chain
  | closeGroup => exact .closeGroup
  | join request left right =>
    simp only [run, join] at success ⊢
    cases targeted : query.tables.resolve request false with
    | error fault => simp [targeted, failed] at success
    | ok target =>
      cases opened : target.registry.resolveColumn query.base left with
      | error fault => simp [targeted, opened, failed] at success
      | ok first =>
        cases closed : first.registry.resolveColumn query.base right with
        | error fault => simp [targeted, opened, closed, failed] at success
        | ok second =>
          simp only [opened, closed]
          exact .join request left right target first second targeted opened closed
  | groupBy request column =>
    simp only [run, groupBy] at success ⊢
    cases visible : Text.isAllBlank column with
    | true => simp [visible, failed] at success
    | false =>
      cases found : query.tables.resolve request false with
      | error fault => simp [visible, found, failed] at success
      | ok resolved => exact .groupBy request column resolved visible found
  | setDialect dialect => exact .setDialect dialect
  | setQualify qualify => exact .setQualify qualify

inductive Steps : Query → List Call → Query → Prop where
  | nil (query : Query) : Steps query [] query
  | cons (query middle later : Query) (call : Call) (calls : List Call) (head : query.Step call middle)
    (tail : Steps middle calls later) : Steps query (call :: calls) later

theorem steps_of_succeeds (query : Query) (calls : List Call) (success : query.succeeds calls = true) :
    query.Steps calls (query.runAll calls) := by
  induction calls generalizing query with
  | nil => exact .nil query
  | cons call calls ih =>
    rw [succeeds, Bool.and_eq_true, Option.isNone_iff_eq_none] at success
    exact .cons query _ _ call calls (query.step_of_succeeded call success.1) (ih _ success.2)

def Begun (query : Query) : Prop := query.operation.isSome = query.base.isSome

theorem Begun.step (query later : Query) (begun : query.Begun) (call : Call) (step : query.Step call later) :
    later.Begun := by
  cases step with
  | select request columns distinct resolved fits found =>
    unfold Begun at begun ⊢
    rcases fits with unset | started
    · simp [selected, unset]
    · rw [started] at begun
      simp [selected, started, ← begun]
  | filter | openGroup | closeGroup | join | groupBy | setDialect | setQualify => exact begun

structure Leads (query later : Query) : Prop where
  tables : ∃ requests, later.tables = query.tables.resolveAll requests
  base : ∀ id, query.base = some id → later.base = some id

theorem Leads.refl (query : Query) : query.Leads query := ⟨⟨[], rfl⟩, fun _ set => set⟩

theorem Leads.trans {first second third : Query} (left : first.Leads second) (right : second.Leads third) :
    first.Leads third := by
  obtain ⟨requests, grown⟩ := left.tables
  obtain ⟨added, more⟩ := right.tables
  refine ⟨⟨requests ++ added, ?_⟩, ?_⟩
  · rw [more, grown, Registry.resolveAll_append]
  · intro id set
    exact right.base id (left.base id set)

theorem leads_of_step (query later : Query) (begun : query.Begun) (call : Call) (step : query.Step call later) :
    query.Leads later := by
  cases step with
  | select request columns distinct resolved fits found =>
    refine ⟨⟨[(request, true)], ?_⟩, ?_⟩
    · exact (Registry.attempt_of_ok query.tables request true resolved found).symm
    · intro id set
      have started : query.operation.isSome = true := by
        rw [begun, set]
        rfl
      simp only [selected, started, if_true]
      exact set
  | filter chain reference operator value known found readable result =>
    exact ⟨Registry.registry_of_resolveColumn query.tables query.base reference found result, fun _ set => set⟩
  | join request left right target first second targeted opened closed =>
    obtain ⟨asked, firstRun⟩ := Registry.registry_of_resolveColumn target.registry query.base left first opened
    obtain ⟨more, secondRun⟩ := Registry.registry_of_resolveColumn first.registry query.base right second closed
    refine ⟨⟨(request, false) :: (asked ++ more), ?_⟩, fun _ set => set⟩
    rw [Registry.resolveAll_cons, Registry.resolveAll_append]
    rw [Registry.attempt_of_ok query.tables request false target targeted, ← firstRun, ← secondRun]
  | groupBy request column resolved visible found =>
    refine ⟨⟨[(request, false)], ?_⟩, fun _ set => set⟩
    exact (Registry.attempt_of_ok query.tables request false resolved found).symm
  | openGroup | closeGroup | setDialect | setQualify => exact ⟨⟨[], rfl⟩, fun _ set => set⟩

theorem begun_of_steps (query later : Query) (begun : query.Begun) (calls : List Call)
    (steps : query.Steps calls later) : later.Begun := by
  induction steps with
  | nil query => exact begun
  | cons query middle later call calls head tail ih => exact ih (begun.step query middle call head)

theorem leads_of_steps (query later : Query) (begun : query.Begun) (calls : List Call)
    (steps : query.Steps calls later) : query.Leads later := by
  induction steps with
  | nil query => exact Leads.refl query
  | cons query middle later call calls head tail ih =>
    have first := leads_of_step query middle begun call head
    have rest := ih (begun.step query middle call head)
    exact first.trans rest

theorem gains_of_step (query later : Query) (plain : query.tables.Plain) (call : Call) (bare : call.isBare = true)
    (step : query.Step call later) : query.tables.Gains call.requests later.tables := by
  have each := call.bare_of_mem bare
  cases step with
  | select request columns distinct resolved fits found =>
    exact Registry.gains_resolve query.tables plain request true resolved found (each request List.mem_cons_self)
  | filter chain reference operator value known found readable result =>
    exact Registry.gains_resolveColumn query.tables plain query.base reference found result each
  | join request left right target first second targeted opened closed =>
    simp only [Call.requests, List.mem_append] at each
    have joined := Registry.gains_resolve query.tables plain request false target targeted
      (each request (.inl (.inl List.mem_cons_self)))
    have start := Registry.gains_resolveColumn target.registry joined.plain query.base left first opened
      fun request member => each request (.inl (.inr member))
    have stop := Registry.gains_resolveColumn first.registry start.plain query.base right second closed
      fun request member => each request (.inr member)
    exact (joined.trans start).trans stop
  | groupBy request column resolved visible found =>
    exact Registry.gains_resolve query.tables plain request false resolved found (each request List.mem_cons_self)
  | openGroup | closeGroup | setDialect | setQualify => exact Registry.Gains.refl query.tables plain

theorem gains_of_steps (query later : Query) (plain : query.tables.Plain) (calls : List Call)
    (bare : ∀ call ∈ calls, call.isBare = true) (steps : query.Steps calls later) :
    query.tables.Gains (calls.flatMap Call.requests) later.tables := by
  induction steps with
  | nil query => exact Registry.Gains.refl query.tables plain
  | cons query middle later call calls head tail ih =>
    have first := gains_of_step query middle plain call (bare call List.mem_cons_self) head
    have rest := ih first.plain fun other member => bare other (List.mem_cons_of_mem call member)
    rw [List.flatMap_cons]
    exact first.trans rest

end Query
end SqlSelect

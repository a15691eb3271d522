import SqlSelect.Query
import SqlSelect.Proofs.Registry.Alias
import SqlSelect.Proofs.Registry.Reference

namespace SqlSelect

def Call.isSelect : Call → Bool
  | .select .. => true
  | _ => false

namespace Query

@[simp] theorem runAll_nil (query : Query) : query.runAll [] = query := rfl

@[simp] theorem runAll_cons (query : Query) (call : Call) (calls : List Call) :
    query.runAll (call :: calls) = (query.run call).query.runAll calls := rfl

theorem runAll_append (query : Query) (left right : List Call) :
    query.runAll (left ++ right) = (query.runAll left).runAll right := by
  simp only [runAll, List.foldl_append]

/-- What no call breaks holds after a run if it holds before it. -/
theorem runAll_induction (holds : Query → Prop) (query : Query) (start : holds query)
    (step : ∀ query call, holds query → holds (query.run call).query) (calls : List Call) :
    holds (query.runAll calls) := by
  induction calls generalizing query with
  | nil => exact start
  | cons call calls ih => exact ih _ (step query call start)

def selected (query : Query) (resolved : Resolved) (columns : List ColumnSpec) (distinct : Bool) : Query :=
  { query with
    operation := some (.select distinct)
    base := if query.operation.isSome then query.base else some resolved.id
    tables := resolved.registry
    columns := (Selection.addAll resolved.registry resolved.id query.columns columns).columns }

def extended (query : Query) (resolved : Resolved) (columns : List ColumnSpec) (distinct : Bool) : Outcome :=
  let selection := Selection.addAll resolved.registry resolved.id query.columns columns
  ⟨query.selected resolved columns distinct,
    resolved.event :: (query.begin (.select distinct) resolved.id).2 ++ selection.events, selection.error⟩

theorem extend_of_fits (query : Query) (request : String) (columns : List ColumnSpec) (distinct : Bool)
    (fits : query.operation = none ∨ query.operation = some (.select distinct)) :
    select.extend request columns distinct query =
      match query.tables.resolve request true with
      | .error fault => query.failed [] fault
      | .ok resolved => query.extended resolved columns distinct := by
  unfold select.extend
  cases result : query.tables.resolve request true with
  | error fault => rfl
  | ok resolved =>
    rcases fits with unset | set
    · simp only [begin, unset, extended, selected, Option.isSome_none, Bool.false_eq_true, if_false]
    · simp only [begin, set, extended, selected, Option.isSome_some, if_true]

theorem select_of_fits (query : Query) (request : String) (columns : List ColumnSpec) (distinct : Bool)
    (fits : query.operation = none ∨ query.operation = some (.select distinct)) :
    query.select request columns distinct =
      match query.tables.resolve request true with
      | .error fault => query.failed [] fault
      | .ok resolved => query.extended resolved columns distinct := by
  rw [← extend_of_fits query request columns distinct fits]
  rcases fits with unset | set
  · simp only [select, unset]
  · simp only [select, set, if_true]

theorem select_of_conflict (query : Query) (request : String) (columns : List ColumnSpec) (distinct : Bool)
    (current : Operation) (set : query.operation = some current) (differs : current ≠ .select distinct) :
    query.select request columns distinct =
      query.failed [] (.operationConflict current (.select distinct)) := by
  simp only [select, set, differs, if_false]

theorem fits_or_conflict (query : Query) (distinct : Bool) :
    (query.operation = none ∨ query.operation = some (.select distinct)) ∨
      ∃ current, query.operation = some current ∧ current ≠ .select distinct := by
  cases set : query.operation with
  | none => exact .inl (.inl rfl)
  | some current =>
    by_cases same : current = .select distinct
    · exact .inl (.inr (by rw [same]))
    · exact .inr ⟨current, rfl, same⟩

theorem select_cases (query : Query) (request : String) (columns : List ColumnSpec) (distinct : Bool) :
    (query.select request columns distinct).query = query ∨
      (query.operation = none ∨ query.operation = some (.select distinct)) ∧
        ∃ resolved, query.tables.resolve request true = .ok resolved ∧
          (query.select request columns distinct).query = query.selected resolved columns distinct := by
  rcases query.fits_or_conflict distinct with fits | ⟨current, set, differs⟩
  · rw [select_of_fits query request columns distinct fits]
    cases result : query.tables.resolve request true with
    | error fault => exact .inl rfl
    | ok resolved => exact .inr ⟨fits, resolved, rfl, rfl⟩
  · rw [select_of_conflict query request columns distinct current set differs]
    exact .inl rfl

theorem filter_cases (query : Query) (chain : Chain) (reference : String) (operator : OperatorSpec)
    (value : Json) :
    (query.filter chain reference operator value).query = query ∨
      ∃ known found, operator.resolve = .ok known ∧
        query.tables.resolveColumn query.base reference = .ok found ∧
        (query.filter chain reference operator value).query =
          { query with
            tables := found.registry
            filters := query.filters.push (.simple chain found.column known value) } := by
  unfold filter
  split
  · exact .inl rfl
  · rename_i known readable
    split
    · exact .inl rfl
    · rename_i found result
      exact .inr ⟨known, found, readable, result, rfl⟩

theorem join_cases (query : Query) (request left right : String) :
    (query.join request left right).query = query ∨
      ∃ target, query.tables.resolve request false = .ok target ∧
        ((query.join request left right).query = { query with tables := target.registry } ∨
          ∃ first, target.registry.resolveColumn query.base left = .ok first ∧
            ((query.join request left right).query = { query with tables := first.registry } ∨
              ∃ second, first.registry.resolveColumn query.base right = .ok second ∧
                (query.join request left right).query =
                  { query with
                    tables := second.registry
                    joints := query.joints ++ [⟨target.id, first.column, second.column⟩] })) := by
  unfold join
  split
  · exact .inl rfl
  · rename_i target result
    refine .inr ⟨target, result, ?_⟩
    split
    · exact .inl rfl
    · rename_i first firstResult
      refine .inr ⟨first, firstResult, ?_⟩
      split
      · exact .inl rfl
      · rename_i second secondResult
        exact .inr ⟨second, secondResult, rfl⟩

theorem groupBy_cases (query : Query) (request column : String) :
    (query.groupBy request column).query = query ∨
      ∃ resolved, query.tables.resolve request false = .ok resolved ∧
        (query.groupBy request column).query =
          { query with
            tables := resolved.registry
            grouping := some ⟨Text.trim column, none, resolved.id⟩ } := by
  unfold groupBy
  split
  · exact .inl rfl
  · split
    · exact .inl rfl
    · rename_i resolved result
      exact .inr ⟨resolved, result, rfl⟩

/-- Only selects change the operation, the base table and the select list. -/
theorem kept_of_other (query : Query) (call : Call) (other : call.isSelect = false) :
    (query.run call).query.operation = query.operation ∧ (query.run call).query.base = query.base ∧
      (query.run call).query.columns = query.columns := by
  cases call with
  | select => cases other
  | filter chain reference operator value =>
    rcases filter_cases query chain reference operator value with same | ⟨_, _, _, _, same⟩
    all_goals simp only [run, same, and_self]
  | join request left right =>
    rcases join_cases query request left right with same | ⟨_, _, same | ⟨_, _, same | ⟨_, _, same⟩⟩⟩
    all_goals simp only [run, same, and_self]
  | groupBy request column =>
    rcases groupBy_cases query request column with same | ⟨_, _, same⟩
    all_goals simp only [run, same, and_self]
  | openGroup | closeGroup | setDialect | setQualify => exact ⟨rfl, rfl, rfl⟩

theorem tables_run (query : Query) (call : Call) :
    ∃ requests, (query.run call).query.tables = query.tables.resolveAll requests := by
  cases call with
  | select request columns distinct =>
    rcases select_cases query request columns distinct with same | ⟨_, resolved, result, left⟩
    · exact ⟨[], by rw [run, same]; rfl⟩
    · refine ⟨[(request, true)], ?_⟩
      rw [run, left, selected, Registry.resolveAll_cons, Registry.resolveAll_nil]
      rw [Registry.attempt_of_ok query.tables request true resolved result]
  | filter chain reference operator value =>
    rcases filter_cases query chain reference operator value with same | ⟨known, found, _, result, left⟩
    · exact ⟨[], by rw [run, same]; rfl⟩
    · rw [run, left]
      exact Registry.registry_of_resolveColumn query.tables query.base reference found result
  | openGroup chain => exact ⟨[], rfl⟩
  | closeGroup => exact ⟨[], rfl⟩
  | join request left right =>
    rcases join_cases query request left right with same | ⟨target, result, later⟩
    · exact ⟨[], by rw [run, same]; rfl⟩
    · have targeted : target.registry = query.tables.resolveAll [(request, false)] :=
        (Registry.attempt_of_ok query.tables request false target result).symm
      rcases later with same | ⟨first, firstResult, later⟩
      · exact ⟨[(request, false)], by rw [run, same, targeted]⟩
      · obtain ⟨firstRequests, firstRun⟩ :=
          Registry.registry_of_resolveColumn target.registry query.base left first firstResult
        rw [targeted, ← Registry.resolveAll_append] at firstRun
        rcases later with same | ⟨second, secondResult, same⟩
        · exact ⟨_, by rw [run, same, firstRun]⟩
        · obtain ⟨secondRequests, secondRun⟩ :=
            Registry.registry_of_resolveColumn first.registry query.base right second secondResult
          rw [firstRun, ← Registry.resolveAll_append] at secondRun
          exact ⟨_, by rw [run, same, secondRun]⟩
  | groupBy request column =>
    rcases groupBy_cases query request column with same | ⟨resolved, result, left⟩
    · exact ⟨[], by rw [run, same]; rfl⟩
    · refine ⟨[(request, false)], ?_⟩
      rw [run, left, Registry.resolveAll_cons, Registry.resolveAll_nil]
      rw [Registry.attempt_of_ok query.tables request false resolved result]
  | setDialect dialect => exact ⟨[], rfl⟩
  | setQualify qualify => exact ⟨[], rfl⟩

theorem tables_runAll (query : Query) (calls : List Call) :
    ∃ requests, (query.runAll calls).tables = query.tables.resolveAll requests := by
  apply runAll_induction (fun later => ∃ requests, later.tables = query.tables.resolveAll requests)
  · exact ⟨[], rfl⟩
  · rintro later call ⟨requests, before⟩
    obtain ⟨added, after⟩ := tables_run later call
    exact ⟨requests ++ added, by rw [after, before, Registry.resolveAll_append]⟩

theorem wellNamed_runAll (calls : List Call) : (({} : Query).runAll calls).tables.WellNamed := by
  obtain ⟨requests, same⟩ := tables_runAll {} calls
  rw [same]
  exact Registry.wellNamed_resolveAll requests

/-- No alias stands for two tables, whatever was requested and whatever failed, and all names are words. -/
theorem aliases_distinct :
    (∀ requests, (({} : Registry).resolveAll requests).WellNamed) ∧
      ∀ calls, (({} : Query).runAll calls).tables.WellNamed := by
  refine ⟨Registry.wellNamed_resolveAll, ?_⟩
  intro calls
  exact wellNamed_runAll calls

end Query
end SqlSelect

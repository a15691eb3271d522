import SqlSelect.Proofs.Query.Run

namespace SqlSelect

namespace Selection

/-- Entries that fail are added up to the first that fails. -/
theorem addAll_failed (registry : Registry) (table : Nat) (columns : List Column) (specs : List ColumnSpec)
    (fault : QueryError) (failed : (addAll registry table columns specs).error = some fault) :
    ∃ before spec after, specs = before ++ spec :: after ∧
      (addAll registry table columns before).error = none ∧
      (addAll registry table columns (before ++ [spec])).error = some fault ∧
      (addAll registry table columns before).columns = (addAll registry table columns specs).columns := by
  induction specs generalizing columns with
  | nil => cases failed
  | cons spec specs ih =>
    cases result : add registry table columns spec with
    | error cause =>
      simp only [addAll, result] at failed
      refine ⟨[], spec, specs, rfl, rfl, ?_, ?_⟩
      · simp only [List.nil_append, addAll, result]
        exact failed
      · simp only [addAll, result]
    | ok added =>
      obtain ⟨later, events⟩ := added
      simp only [addAll, result] at failed
      obtain ⟨before, last, after, split, succeeded, rejected, same⟩ := ih later failed
      refine ⟨spec :: before, last, after, by rw [split, List.cons_append], ?_, ?_, ?_⟩
      · simp only [addAll, result]
        exact succeeded
      · simp only [List.cons_append, addAll, result]
        exact rejected
      · simp only [addAll, result]
        exact same

end Selection

namespace Registry

def AddsNoRoot (registry later : Registry) : Prop :=
  ∃ added, later.tables = registry.tables ++ added ∧ ∀ table ∈ added, table.isRoot = false

theorem AddsNoRoot.refl (registry : Registry) : registry.AddsNoRoot registry :=
  ⟨[], by simp, by simp⟩

theorem AddsNoRoot.trans {first second third : Registry} (left : first.AddsNoRoot second)
    (right : second.AddsNoRoot third) : first.AddsNoRoot third := by
  obtain ⟨added, grown, fresh⟩ := left
  obtain ⟨more, later, clear⟩ := right
  refine ⟨added ++ more, by rw [later, grown, List.append_assoc], ?_⟩
  intro table member
  rcases List.mem_append.mp member with member | member
  · exact fresh table member
  · exact clear table member

theorem addsNoRoot_of_resolve (registry : Registry) (request : String) (resolved : Resolved)
    (success : registry.resolve request false = .ok resolved) : registry.AddsNoRoot resolved.registry := by
  rcases resolve_cases registry request false resolved success with
    ⟨same, _⟩ | ⟨parsed, collisions, _, _, _, tables⟩
  · rw [same]
    exact AddsNoRoot.refl registry
  · refine ⟨_, tables, ?_⟩
    intro table member
    rw [List.mem_singleton.mp member, isRoot_newTable]

def attemptColumn (registry : Registry) (base : Option Nat) (reference : String) : Registry :=
  match registry.resolveColumn base reference with
  | .ok found => found.registry
  | .error _ => registry

theorem addsNoRoot_attemptColumn (registry : Registry) (base : Option Nat) (reference : String) :
    registry.AddsNoRoot (registry.attemptColumn base reference) := by
  unfold attemptColumn
  split
  · rename_i found success
    rcases resolveColumn_cases registry base reference found success with
      ⟨_, _, _, _, rfl⟩ | ⟨request, _, resolved, _, result, rfl⟩
    · exact AddsNoRoot.refl registry
    · exact addsNoRoot_of_resolve registry request resolved result
  · exact AddsNoRoot.refl registry

end Registry

namespace Query

def joinTables (query : Query) (request left : String) : Registry :=
  match query.tables.resolve request false with
  | .ok target => target.registry.attemptColumn query.base left
  | .error _ => query.tables

theorem addsNoRoot_joinTables (query : Query) (request left : String) :
    query.tables.AddsNoRoot (query.joinTables request left) := by
  unfold joinTables
  split
  · rename_i target result
    have first := Registry.addsNoRoot_of_resolve query.tables request target result
    exact first.trans (target.registry.addsNoRoot_attemptColumn query.base left)
  · exact Registry.AddsNoRoot.refl query.tables

/-- What a call may leave that fails with an error. A select fails at its operation, at its table, or at the first
column that is refused. -/
inductive Footprint (query : Query) : Call → QueryError → Query → Prop where
  | filter (chain : Chain) (reference : String) (operator : OperatorSpec) (value : Json) (fault : QueryError) :
    Footprint query (.filter chain reference operator value) fault query
  | groupBy (request column : String) (fault : QueryError) :
    Footprint query (.groupBy request column) fault query
  | join (request left right : String) (fault : QueryError)
    (added : query.tables.AddsNoRoot (query.joinTables request left)) :
    Footprint query (.join request left right) fault { query with tables := query.joinTables request left }
  | conflict (request : String) (columns : List ColumnSpec) (distinct : Bool) (current : Operation)
    (set : query.operation = some current) (differs : current ≠ .select distinct) :
    Footprint query (.select request columns distinct) (.operationConflict current (.select distinct)) query
  | table (request : String) (columns : List ColumnSpec) (distinct : Bool) (fault : QueryError)
    (refused : query.tables.resolve request true = .error fault) :
    Footprint query (.select request columns distinct) fault query
  | column (request : String) (before : List ColumnSpec) (spec : ColumnSpec) (after : List ColumnSpec)
    (distinct : Bool) (fault : QueryError)
    (succeeded : (query.select request before distinct).error = none)
    (refused : (query.select request (before ++ [spec]) distinct).error = some fault) :
    Footprint query (.select request (before ++ spec :: after) distinct) fault
      (query.select request before distinct).query

theorem join_failed (query : Query) (request left right : String) (fault : QueryError)
    (failed : (query.join request left right).error = some fault) :
    (query.join request left right).query = { query with tables := query.joinTables request left } := by
  unfold join at failed ⊢
  unfold joinTables Registry.attemptColumn
  cases targeted : query.tables.resolve request false with
  | error cause => rfl
  | ok target =>
    cases read : target.registry.resolveColumn query.base left with
    | error cause => simp only [read, Query.failed]
    | ok first =>
      cases closed : first.registry.resolveColumn query.base right with
      | error cause => simp only [read, closed, Query.failed]
      | ok second => simp [targeted, read, closed, done] at failed

theorem footprint_of_select (query : Query) (request : String) (columns : List ColumnSpec) (distinct : Bool)
    (fault : QueryError) (failed : (query.select request columns distinct).error = some fault) :
    query.Footprint (.select request columns distinct) fault (query.select request columns distinct).query := by
  rcases query.fits_or_conflict distinct with fits | ⟨current, set, differs⟩
  · have outcome := fun columns => select_of_fits query request columns distinct fits
    cases result : query.tables.resolve request true with
    | error cause =>
      simp only [result] at outcome
      rw [outcome] at failed ⊢
      cases failed
      exact .table request columns distinct fault result
    | ok resolved =>
      simp only [result] at outcome
      rw [outcome] at failed
      obtain ⟨before, spec, after, rfl, succeeded, refused, same⟩ :=
        Selection.addAll_failed resolved.registry resolved.id query.columns columns fault failed
      have left : (query.select request (before ++ spec :: after) distinct).query =
          (query.select request before distinct).query := by
        rw [outcome, outcome, extended, extended, selected, selected, same]
      rw [left]
      apply Footprint.column request before spec after distinct fault
      · rw [outcome]
        exact succeeded
      · rw [outcome]
        exact refused
  · rw [select_of_conflict query request columns distinct current set differs] at failed ⊢
    cases failed
    exact .conflict request columns distinct current set differs

/-- What a failed call leaves of a query, in any state and at any of its steps. -/
theorem footprint_of_failed (query : Query) (call : Call) (fault : QueryError)
    (failed : (query.run call).error = some fault) : query.Footprint call fault (query.run call).query := by
  cases call with
  | select request columns distinct => exact query.footprint_of_select request columns distinct fault failed
  | filter chain reference operator value =>
    have same := query.filter_failed chain reference operator value (by
      rw [show (query.filter chain reference operator value).error = some fault from failed]
      simp)
    rw [run, same]
    exact .filter chain reference operator value fault
  | openGroup chain => cases failed
  | closeGroup => cases failed
  | join request left right =>
    rw [run, query.join_failed request left right fault failed]
    exact .join request left right fault (query.addsNoRoot_joinTables request left)
  | groupBy request column =>
    have same := query.groupBy_failed request column (by
      rw [show (query.groupBy request column).error = some fault from failed]
      simp)
    rw [run, same]
    exact .groupBy request column fault
  | setDialect dialect => cases failed
  | setQualify qualify => cases failed

/-- The second column is refused for its alias: the table, the operation and the first column stay. -/
theorem footprint_of_failed_select :
    let query := ({} : Query).runAll [.groupBy "items" "id", .openGroup .or]
    let call := Call.select "users u" [⟨"id", some "a"⟩, ⟨"name", some "a"⟩, ⟨"age", none⟩] true
    (query.run call).error = some (.duplicateColumnAlias "a") ∧
      query.Footprint call (.duplicateColumnAlias "a") (query.run call).query := by
  intro query call
  have refused : (query.run call).error = some (.duplicateColumnAlias "a") := by decide +kernel
  exact ⟨refused, footprint_of_failed query call _ refused⟩

end Query
end SqlSelect

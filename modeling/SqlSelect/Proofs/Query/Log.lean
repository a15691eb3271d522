import SqlSelect.Proofs.Query.Lookup
import SqlSelect.Proofs.Registry.Bare
import SqlSelect.Proofs.Registry.Log

namespace SqlSelect

def Event.isOperation : Event → Bool
  | operationSet _ => true
  | _ => false

def ColumnReference.lookups (reference : String) : List (String × Bool) :=
  (request? reference).toList.map fun request => (request, false)

namespace Registry

def Accounts (registry : Registry) (requests : List (String × Bool)) (events : List Event) (later : Registry) : Prop :=
  registry.log requests = events ∧ registry.resolveAll requests = later

theorem Accounts.nil (registry : Registry) : registry.Accounts [] [] registry := ⟨rfl, rfl⟩

theorem Accounts.append {first second third : Registry} {asked more : List (String × Bool)} {events others : List Event}
    (left : first.Accounts asked events second) (right : second.Accounts more others third) :
    first.Accounts (asked ++ more) (events ++ others) third := by
  obtain ⟨logged, rfl⟩ := left
  obtain ⟨next, rfl⟩ := right
  exact ⟨by rw [log_append, logged, next], resolveAll_append ..⟩

theorem Accounts.filter {registry later : Registry} {requests : List (String × Bool)} {events : List Event}
    (accounts : registry.Accounts requests events later) :
    registry.Accounts requests (events.filter Event.isOfTable) later := by
  have all : events.filter Event.isOfTable = events := by
    rw [← accounts.1, List.filter_eq_self]
    exact registry.isOfTable_of_mem_log requests
  rwa [all]

theorem Accounts.noOperation {registry later : Registry} {requests : List (String × Bool)} {events : List Event}
    (accounts : registry.Accounts requests events later) : events.filter Event.isOperation = [] := by
  rw [List.filter_eq_nil_iff, ← accounts.1]
  intro event logged
  have table := registry.isOfTable_of_mem_log requests event logged
  cases event with
  | operationSet => cases table
  | _ => exact Bool.false_ne_true

theorem accounts_of_ok (registry : Registry) (request : String) (isRoot : Bool) (resolved : Resolved)
    (success : registry.resolve request isRoot = .ok resolved) :
    registry.Accounts [(request, isRoot)] [resolved.event] resolved.registry := by
  simp [Accounts, log, reports, attempt, success]

theorem accounts_of_error (registry : Registry) (request : String) (isRoot : Bool) (fault : QueryError)
    (failure : registry.resolve request isRoot = .error fault) :
    registry.Accounts [(request, isRoot)] [] registry := by
  simp [Accounts, log, reports, attempt, failure]

section Reference

variable (registry : Registry) (base : Option Nat) (reference : String)

theorem accounts_of_found (found : ResolvedColumn) (success : registry.resolveColumn base reference = .ok found) :
    registry.Accounts (ColumnReference.lookups reference) found.events found.registry := by
  rcases resolveColumn_cases registry base reference found success with
    ⟨id, name, readable, _, rfl⟩ | ⟨request, name, resolved, readable, result, rfl⟩
  · rw [ColumnReference.lookups, ColumnReference.request?_of_readable reference _ readable]
    exact .nil registry
  · rw [ColumnReference.lookups, ColumnReference.request?_of_readable reference _ readable]
    exact registry.accounts_of_ok request false resolved result

theorem accounts_of_fault (fault : QueryError) (failure : registry.resolveColumn base reference = .error fault) :
    registry.Accounts (ColumnReference.lookups reference) [] registry := by
  cases readable : ColumnReference.parse reference with
  | error cause =>
    rw [ColumnReference.lookups, ColumnReference.request?, readable]
    exact .nil registry
  | ok parsed =>
    rw [ColumnReference.lookups, ColumnReference.request?_of_readable reference _ readable]
    obtain ⟨_ | request, name⟩ := parsed
    · exact .nil registry
    · rw [resolveColumn_of_qualified registry base reference request name readable] at failure
      cases result : registry.resolve request false with
      | error cause => exact registry.accounts_of_error request false cause result
      | ok resolved =>
        rw [result] at failure
        cases failure

end Reference
end Registry

namespace Query

/-- The requests for tables that a call makes. It makes none behind its first failure. -/
def lookups (query : Query) : Call → List (String × Bool)
  | .select request _ distinct =>
    if query.operation = none ∨ query.operation = some (.select distinct) then [(request, true)] else []
  | .filter _ reference operator _ =>
    match operator.resolve with
    | .error _ => []
    | .ok _ => ColumnReference.lookups reference
  | .join request left right =>
    match query.tables.resolve request false with
    | .error _ => [(request, false)]
    | .ok target =>
      match target.registry.resolveColumn query.base left with
      | .error _ => [(request, false)] ++ ColumnReference.lookups left
      | .ok _ => [(request, false)] ++ ColumnReference.lookups left ++ ColumnReference.lookups right
  | .groupBy request column => if Text.isAllBlank column then [] else [(request, false)]
  | .openGroup _ | .closeGroup | .setDialect _ | .setQualify _ => []

def allLookups (query : Query) : List Call → List (String × Bool)
  | [] => []
  | call :: calls => query.lookups call ++ (query.run call).query.allLookups calls

def log (query : Query) : List Call → List Event
  | [] => []
  | call :: calls => (query.run call).events ++ (query.run call).query.log calls

/-- The columns of a select report repetitions only. -/
theorem filter_extended (query : Query) (columns : List ColumnSpec) (distinct : Bool) (resolved : Resolved)
    (p : Event → Bool) (silent : ∀ aliasName name, p (.columnRepeated aliasName name) = false) :
    (query.extended resolved columns distinct).events.filter p =
      [resolved.event].filter p ++ (query.begin (.select distinct) resolved.id).2.filter p := by
  have columns : (Selection.addAll resolved.registry resolved.id query.columns columns).events.filter p = [] := by
    rw [List.filter_eq_nil_iff]
    intro event reported
    obtain ⟨_, _, _, rfl⟩ := Selection.repeated_of_mem_addAll _ _ _ _ _ reported
    exact Bool.not_eq_true _ ▸ silent _ _
  rw [extended, List.filter_append, columns, List.append_nil, ← List.filter_append, List.singleton_append]

section Extended

variable (query : Query) (request : String) (columns : List ColumnSpec) (distinct : Bool) (resolved : Resolved)
  (found : query.tables.resolve request true = .ok resolved)

include found

theorem isOfTable_of_resolve : resolved.event.isOfTable = true := by
  apply query.tables.isOfTable_of_mem_log [(request, true)]
  rw [(query.tables.accounts_of_ok request true resolved found).1]
  exact List.mem_singleton_self resolved.event

theorem tables_of_extended :
    (query.extended resolved columns distinct).events.filter Event.isOfTable = [resolved.event] := by
  have operation : (query.begin (.select distinct) resolved.id).2.filter Event.isOfTable = [] := by
    unfold begin
    split <;> rfl
  rw [query.filter_extended columns distinct resolved _ fun _ _ => rfl, operation]
  simp [query.isOfTable_of_resolve request resolved found]

theorem operation_of_extended :
    (query.extended resolved columns distinct).events.filter Event.isOperation =
      (query.begin (.select distinct) resolved.id).2 := by
  have table := (query.tables.accounts_of_ok request true resolved found).noOperation
  rw [query.filter_extended columns distinct resolved _ fun _ _ => rfl, table]
  unfold begin
  split <;> rfl

end Extended

theorem accounts_select (query : Query) (request : String) (columns : List ColumnSpec) (distinct : Bool) :
    query.tables.Accounts (query.lookups (.select request columns distinct))
      ((query.select request columns distinct).events.filter Event.isOfTable)
      (query.select request columns distinct).query.tables := by
  rw [lookups]
  rcases query.fits_or_conflict distinct with fits | ⟨current, set, differs⟩
  · rw [select_of_fits query request columns distinct fits, if_pos fits]
    cases found : query.tables.resolve request true with
    | error fault => exact query.tables.accounts_of_error request true fault found
    | ok resolved =>
      rw [query.tables_of_extended request columns distinct resolved found]
      exact query.tables.accounts_of_ok request true resolved found
  · have unfit : ¬ (query.operation = none ∨ query.operation = some (.select distinct)) := by
      simp [set, differs]
    rw [select_of_conflict query request columns distinct current set differs, if_neg unfit]
    exact .nil query.tables

theorem accounts_filter (query : Query) (chain : Chain) (reference : String) (operator : OperatorSpec)
    (value : Json) :
    query.tables.Accounts (query.lookups (.filter chain reference operator value))
      (query.filter chain reference operator value).events
      (query.filter chain reference operator value).query.tables := by
  simp only [filter, lookups]
  cases operator.resolve with
  | error fault => exact .nil query.tables
  | ok known =>
    cases result : query.tables.resolveColumn query.base reference with
    | error fault => exact query.tables.accounts_of_fault query.base reference fault result
    | ok found => exact query.tables.accounts_of_found query.base reference found result

theorem accounts_join (query : Query) (request left right : String) :
    query.tables.Accounts (query.lookups (.join request left right)) (query.join request left right).events
      (query.join request left right).query.tables := by
  cases targeted : query.tables.resolve request false with
  | error fault =>
    simp only [join, lookups, targeted]
    exact query.tables.accounts_of_error request false fault targeted
  | ok target =>
    have joined := query.tables.accounts_of_ok request false target targeted
    cases opened : target.registry.resolveColumn query.base left with
    | error fault =>
      simp only [join, lookups, targeted, opened]
      exact joined.append (target.registry.accounts_of_fault query.base left fault opened)
    | ok first =>
      have read := joined.append (target.registry.accounts_of_found query.base left first opened)
      cases closed : first.registry.resolveColumn query.base right with
      | error fault =>
        have both := read.append (first.registry.accounts_of_fault query.base right fault closed)
        simp only [join, lookups, targeted, opened, closed]
        rwa [List.append_nil] at both
      | ok second =>
        simp only [join, lookups, targeted, opened, closed]
        exact read.append (first.registry.accounts_of_found query.base right second closed)

theorem accounts_groupBy (query : Query) (request column : String) :
    query.tables.Accounts (query.lookups (.groupBy request column)) (query.groupBy request column).events
      (query.groupBy request column).query.tables := by
  simp only [groupBy, lookups]
  cases Text.isAllBlank column with
  | true => exact .nil query.tables
  | false =>
    cases found : query.tables.resolve request false with
    | error fault => exact query.tables.accounts_of_error request false fault found
    | ok resolved => exact query.tables.accounts_of_ok request false resolved found

/-- A call reports of tables what its requests report, and leaves the tables that they leave. -/
theorem accounts_run (query : Query) (call : Call) :
    query.tables.Accounts (query.lookups call) ((query.run call).events.filter Event.isOfTable)
      (query.run call).query.tables := by
  cases call with
  | select request columns distinct => exact query.accounts_select request columns distinct
  | filter chain reference operator value => exact (query.accounts_filter chain reference operator value).filter
  | join request left right => exact (query.accounts_join request left right).filter
  | groupBy request column => exact (query.accounts_groupBy request column).filter
  | openGroup | closeGroup | setDialect | setQualify => exact .nil query.tables

theorem accounts_runAll (query : Query) (calls : List Call) :
    query.tables.Accounts (query.allLookups calls) ((query.log calls).filter Event.isOfTable)
      (query.runAll calls).tables := by
  induction calls generalizing query with
  | nil => exact Registry.Accounts.nil query.tables
  | cons call calls ih =>
    rw [log, List.filter_append]
    exact (query.accounts_run call).append (ih _)

/-- A call reports the operation that it sets and no other. -/
theorem operation_run (query : Query) (call : Call) :
    (query.run call).query.operation.toList.map Event.operationSet =
      query.operation.toList.map .operationSet ++ (query.run call).events.filter Event.isOperation := by
  cases call with
  | select request columns distinct =>
    rw [run]
    rcases query.fits_or_conflict distinct with fits | ⟨current, set, differs⟩
    · rw [select_of_fits query request columns distinct fits]
      cases found : query.tables.resolve request true with
      | error fault => exact (List.append_nil _).symm
      | ok resolved =>
        simp only [query.operation_of_extended request columns distinct resolved found]
        rcases fits with unset | set
        · simp only [extended, selected, begin, unset]
          rfl
        · simp only [extended, selected, begin, set]
          rfl
    · rw [select_of_conflict query request columns distinct current set differs]
      exact (List.append_nil _).symm
  | filter chain reference operator value =>
    rw [(query.kept_of_other _ rfl).1, run]
    rw [(query.accounts_filter chain reference operator value).noOperation, List.append_nil]
  | join request left right =>
    rw [(query.kept_of_other _ rfl).1, run, (query.accounts_join request left right).noOperation, List.append_nil]
  | groupBy request column =>
    rw [(query.kept_of_other _ rfl).1, run, (query.accounts_groupBy request column).noOperation, List.append_nil]
  | openGroup | closeGroup | setDialect | setQualify => exact (List.append_nil _).symm

theorem operation_runAll (query : Query) (calls : List Call) :
    (query.runAll calls).operation.toList.map Event.operationSet =
      query.operation.toList.map .operationSet ++ (query.log calls).filter Event.isOperation := by
  induction calls generalizing query with
  | nil => exact (List.append_nil _).symm
  | cons call calls ih => rw [runAll_cons, ih, operation_run, log, List.filter_append, List.append_assoc]

theorem operationSet_mem_iff (query : Query) (call : Call) (operation : Operation) :
    .operationSet operation ∈ (query.run call).events ↔
      query.operation = none ∧ (query.run call).query.operation = some operation := by
  have balance := query.operation_run call
  have kept : .operationSet operation ∈ (query.run call).events ↔
      .operationSet operation ∈ (query.run call).events.filter Event.isOperation := by
    simp [List.mem_filter, Event.isOperation]
  rw [kept]
  cases before : query.operation with
  | none =>
    rw [before, Option.toList_none, List.map_nil, List.nil_append] at balance
    rw [← balance]
    simp
  | some current =>
    -- an operation that is set stays one, so there is no room for a report
    have room := congrArg List.length balance
    rw [before] at room
    have short : (query.run call).query.operation.toList.length ≤ 1 := by
      cases (query.run call).query.operation <;> simp
    simp only [List.length_map, Option.toList_some, List.map_cons, List.map_nil, List.length_append,
      List.length_singleton] at room
    have silent : (query.run call).events.filter Event.isOperation = [] := by
      rw [← List.length_eq_zero_iff]
      omega
    simp [silent]

/-- The log of a run tells what the run leaves. In a registry every request reports what it does, and the registrations
are those of the tables, in the order of their ids. A query reports of its tables what the requests report that its
calls make, and an operation once, when a call sets it. -/
theorem log_of_run :
    (∀ requests,
      let registry := ({} : Registry).resolveAll requests
      (({} : Registry).log requests).filter Event.isRegistration = registry.registrations ∧
        ∀ request isRoot, registry.Reported request isRoot (registry.reports request isRoot)
          (registry.attempt request isRoot)) ∧
    ∀ calls,
      let query := ({} : Query).runAll calls
      let log := ({} : Query).log calls
      ({} : Registry).Accounts (({} : Query).allLookups calls) (log.filter Event.isOfTable) query.tables ∧
        log.filter Event.isRegistration = query.tables.registrations ∧
        log.filter Event.isOperation = query.operation.toList.map .operationSet ∧
        ∀ call operation, .operationSet operation ∈ (query.run call).events ↔
          query.operation = none ∧ (query.run call).query.operation = some operation := by
  constructor
  · intro requests registry
    exact ⟨(Registry.registrations_resolveAll {} requests).symm, registry.reported⟩
  · intro calls query log
    have accounts := ({} : Query).accounts_runAll calls
    refine ⟨accounts, ?_, (({} : Query).operation_runAll calls).symm, query.operationSet_mem_iff⟩
    have registered := Registry.registrations_resolveAll {} (({} : Query).allLookups calls)
    rw [accounts.1, accounts.2, List.filter_filter] at registered
    have weaker : (fun event : Event => event.isRegistration && event.isOfTable) = Event.isRegistration := by
      funext event
      cases event <;> rfl
    rw [weaker] at registered
    exact registered.symm

end Query
end SqlSelect

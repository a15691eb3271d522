import SqlSelect.SelectList
import SqlSelect.Statement.Render

namespace SqlSelect

structure Query where
  operation : Option Operation := none
  base : Option Nat := none
  columns : List Column := []
  joints : List Joint := []
  filters : Filters := {}
  grouping : Option Column := none
  tables : Registry := {}
  dialect : Dialect := .plain
  qualify : Qualify := .auto

structure Outcome where
  query : Query
  events : List Event
  error : Option QueryError

inductive OperatorSpec where
  | typed (operator : Operator)
  | spelled (text : String)
  deriving DecidableEq, Repr

def OperatorSpec.resolve : OperatorSpec → Except QueryError Operator
  | typed operator => .ok operator
  | spelled text => Operator.parse text

/-- A call on a query. Groups that are open are part of the query: filters and groups go to the innermost. -/
inductive Call where
  | select (request : String) (columns : List ColumnSpec) (distinct : Bool)
  | filter (chain : Chain) (reference : String) (operator : OperatorSpec) (value : Json)
  | openGroup (chain : Chain)
  | closeGroup
  | join (request left right : String)
  | groupBy (request column : String)
  | setDialect (dialect : Dialect)
  | setQualify (qualify : Qualify)

namespace Query

def done (query : Query) (events : List Event) : Outcome := ⟨query, events, none⟩

def failed (query : Query) (events : List Event) (error : QueryError) : Outcome :=
  ⟨query, events, some error⟩

def begin (query : Query) (operation : Operation) (base : Nat) : Query × List Event :=
  match query.operation with
  | none =>
    ({ query with operation := some operation, base := some base }, [.operationSet operation])
  | some _ => (query, [])

def select (query : Query) (request : String) (columns : List ColumnSpec) (distinct : Bool) : Outcome :=
  match query.operation with
  | some current =>
    if current = .select distinct then extend query
    else query.failed [] (.operationConflict current (.select distinct))
  | none => extend query
where
  extend (query : Query) : Outcome :=
    match query.tables.resolve request true with
    | .error fault => query.failed [] fault
    | .ok resolved =>
      let (started, set) := { query with tables := resolved.registry }.begin (.select distinct) resolved.id
      let selection := Selection.addAll resolved.registry resolved.id query.columns columns
      ⟨{ started with columns := selection.columns }, resolved.event :: set ++ selection.events,
        selection.error⟩

def filter (query : Query) (chain : Chain) (reference : String) (operator : OperatorSpec) (value : Json) :
    Outcome :=
  match operator.resolve with
  | .error fault => query.failed [] fault
  | .ok operator =>
    match query.tables.resolveColumn query.base reference with
    | .error fault => query.failed [] fault
    | .ok resolved =>
      done { query with
        tables := resolved.registry
        filters := query.filters.push (.simple chain resolved.column operator value) } resolved.events

def openGroup (query : Query) (chain : Chain) : Outcome :=
  done { query with filters := query.filters.openGroup chain } []

def closeGroup (query : Query) : Outcome :=
  done { query with filters := query.filters.closeGroup } []

def join (query : Query) (request left right : String) : Outcome :=
  match query.tables.resolve request false with
  | .error fault => query.failed [] fault
  | .ok target =>
    match target.registry.resolveColumn query.base left with
    | .error fault => failed { query with tables := target.registry } [target.event] fault
    | .ok first =>
      match first.registry.resolveColumn query.base right with
      | .error fault =>
        failed { query with tables := first.registry } (target.event :: first.events) fault
      | .ok second =>
        done { query with
          tables := second.registry
          joints := query.joints ++ [⟨target.id, first.column, second.column⟩] }
          (target.event :: first.events ++ second.events)

def groupBy (query : Query) (request column : String) : Outcome :=
  if Text.isAllBlank column then query.failed [] (.invalidReference .emptyGrouping)
  else
    match query.tables.resolve request false with
    | .error fault => query.failed [] fault
    | .ok resolved =>
      done { query with
        tables := resolved.registry
        grouping := some ⟨Text.trim column, none, resolved.id⟩ } [resolved.event]

def run (query : Query) : Call → Outcome
  | .select request columns distinct => query.select request columns distinct
  | .filter chain reference operator value => query.filter chain reference operator value
  | .openGroup chain => query.openGroup chain
  | .closeGroup => query.closeGroup
  | .join request left right => query.join request left right
  | .groupBy request column => query.groupBy request column
  | .setDialect dialect => done { query with dialect := dialect } []
  | .setQualify qualify => done { query with qualify := qualify } []

def runAll (query : Query) (calls : List Call) : Query :=
  calls.foldl (fun query call => (query.run call).query) query

def baseTable (query : Query) : Option Table := query.base.map query.tables.table

def statement? (query : Query) : Option Statement :=
  query.operation.map fun operation =>
    ⟨operation, query.base, query.columns, query.joints, query.filters.conditions, query.grouping,
      query.tables⟩

def generate (query : Query) : Except QueryError String :=
  match query.statement? with
  | some statement => .ok (statement.render query.dialect query.qualify)
  | none => .error .noOperation

def generateEvents (query : Query) : List Event :=
  match query.statement? with
  | some statement =>
    [.generated statement.operation query.tables.size (statement.render query.dialect query.qualify)]
  | none => []

theorem filter_failed (query : Query) (chain : Chain) (reference : String) (operator : OperatorSpec)
    (value : Json) (fault : (query.filter chain reference operator value).error ≠ none) :
    (query.filter chain reference operator value).query = query := by
  unfold filter at *
  split
  · rfl
  · split
    · rfl
    · simp_all [done]

theorem groupBy_failed (query : Query) (request column : String)
    (fault : (query.groupBy request column).error ≠ none) :
    (query.groupBy request column).query = query := by
  unfold groupBy at *
  split
  · rfl
  · split
    · rfl
    · simp_all [done]

end Query
end SqlSelect

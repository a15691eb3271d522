import SqlSelect.Column

namespace SqlSelect

structure Selection where
  columns : List Column
  events : List Event
  error : Option QueryError
  deriving DecidableEq, Repr

namespace Selection

/-- The list with one more entry, or as it was if it holds that column. -/
def add (registry : Registry) (table : Nat) (columns : List Column) (spec : ColumnSpec) :
    Except QueryError (List Column × List Event) :=
  if Text.isAllBlank spec.name then .error (.invalidReference .emptyColumn)
  else if columns.any fun column => column.table == table && column.name == spec.name then
    .ok (columns, [.columnRepeated (registry.table table).aliasName spec.name])
  else
    match spec.aliasName with
    | none => .ok (columns ++ [⟨spec.name, none, table⟩], [])
    | some aliasName =>
      if columns.any (·.aliasName == some aliasName) then .error (.duplicateColumnAlias aliasName)
      else .ok (columns ++ [⟨spec.name, some aliasName, table⟩], [])

def addAll (registry : Registry) (table : Nat) : List Column → List ColumnSpec → Selection
  | columns, [] => ⟨columns, [], none⟩
  | columns, spec :: specs =>
    match add registry table columns spec with
    | .error fault => ⟨columns, [], some fault⟩
    | .ok (columns, events) =>
      let rest := addAll registry table columns specs
      ⟨rest.columns, events ++ rest.events, rest.error⟩

end Selection
end SqlSelect

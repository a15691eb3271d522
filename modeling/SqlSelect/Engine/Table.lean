import SqlSelect.Engine.Filter
import SqlSelect.Engine.Reference

namespace SqlSelect

structure StoredTable where
  name : String
  columns : List (String × CellType)
  rows : List (List Cell) := []

structure Source where
  name : String
  type : CellType
  value : List Cell → Cell

namespace Source

def part? (source : Source) (name : String) : Option Source :=
  let place := fun (parts : List (String × CellType)) =>
    parts.zipIdx.find? fun ((other, _), _) => Text.sameLetters other name
  match source.type with
  | .record fields =>
    (place fields).map fun ((_, type), position) =>
      ⟨name, type, fun row =>
        match source.value row with
        | .record cells => ((cells[position]?).map (·.2)).getD .null
        | _ => .null⟩
  | .union members =>
    (place members).map fun ((tag, type), _) =>
      ⟨name, type, fun row =>
        match source.value row with
        | .member found inner => if found = tag then inner else .null
        | _ => .null⟩
  | _ => none

end Source

namespace StoredTable

def numberedRows (table : StoredTable) : List (List Cell) :=
  table.rows.zipIdx.map fun (row, number) => row ++ [.integer number]

def column? (table : StoredTable) (name : String) : Option Source :=
  ((table.columns ++ [("rowid", CellType.integer true 64)]).zipIdx.find? fun ((other, _), _) =>
    Text.sameLetters other name).map
    fun ((declared, type), position) => ⟨declared, type, fun row => row.getD position .null⟩

def admits (table : StoredTable) (row : List Cell) : Bool :=
  row.length == table.columns.length &&
    (table.columns.zip row).all fun ((_, type), cell) => type.admits cell

def allColumns (table : StoredTable) : List Source :=
  table.columns.zipIdx.map fun ((name, type), position) => ⟨name, type, fun row => row.getD position .null⟩

def record (table : StoredTable) (name : String) : Source :=
  ⟨name, .record table.columns, fun row => .record ((table.columns.map (·.1)).zip row)⟩

/-- What a reference stands for in a statement that gives the table an alias. A column comes before the table itself,
and a column of the table before a part of a column. -/
def source? (table : StoredTable) (aliasName : String) : List String → Option Source
  | [] => none
  | [name] =>
    (table.column? name).or (if Text.sameLetters name aliasName then some (table.record name) else none)
  | first :: second :: parts =>
    match if Text.sameLetters first aliasName then table.column? second else none with
    | some column => parts.foldlM Source.part? column
    | none => do (second :: parts).foldlM Source.part? (← table.column? first)

/-- The entry that a name shown in the select list stands for, if it has been found by now. Of two entries with the
name the later counts. -/
def shown? (entries : List SelectEntry) (found : List (List Source)) (path : List String) : Option Source := do
  let (_, position) ← entries.zipIdx.reverse.find? fun (entry, _) =>
    match entry, path with
    | .reference _ (some shown), [name] => Text.sameLetters shown name
    | _, _ => false
  (← found[position]?).head?

def sources (table : StoredTable) (aliasName : String) (entries : List SelectEntry)
    (found : List (List Source)) : SelectEntry → Except QueryError (List Source)
  | .all => .ok table.allColumns
  | .allOf name =>
    if Text.sameLetters name aliasName then .ok table.allColumns
    else .error (.database "the table is not in the statement")
  | .reference path shown =>
    let earlier := (shown? entries found path).map fun source => { source with name := path.headD "" }
    match (table.source? aliasName path).or earlier with
    | some source => .ok [{ source with name := shown.getD source.name }]
    | none => .error (.database "the column does not exist")

def select (table : StoredTable) (aliasName : String) (entries : List SelectEntry) :
    Except QueryError (List (List Source)) :=
  entries.foldlM
    (fun found entry => do .ok (found ++ [← table.sources aliasName entries found entry])) []

def columnTest (table : StoredTable) (scope : Scope) (aliasName : String) (entries : List SelectEntry)
    (found : List (List Source)) (column : Column) (operator : Operator) (value : Json) :
    Except QueryError RowTest := do
  match referencePath? (scope.columnText column) with
  | none => .error (.database "the expression is not known here")
  | some path =>
    match (table.source? aliasName path).or (shown? entries found path) with
    | none => .error (.database "the column does not exist")
    | some source => do
      let test ← source.type.test (table.numberedRows.map source.value) operator value
      .ok fun row => test (source.value row)

def dropRepeated (rows : List (List Cell)) : List (List Cell) :=
  let shown := fun (row : List Cell) => row.map fun cell => cell.toJson.print
  (rows.foldl
    (fun (kept, seen) row =>
      if seen.contains (shown row) then (kept, seen) else (row :: kept, shown row :: seen))
    ([], [])).1.reverse

def answer (table : StoredTable) (read : Cell → Except QueryError Cell) (statement : Statement) (base : Nat)
    (scope : Scope) : Except QueryError ResultSet := do
  let aliasName := (statement.tables.table base).aliasName
  let entries ← match SelectEntry.readList? (scope.columnsText statement.columns) with
    | some entries => .ok entries
    | none => .error (.database "the select list is not known here")
  let found ← table.select aliasName entries
  let tests ← conditionTests (table.columnTest scope aliasName entries found) statement.conditions
  let selected := table.numberedRows.filter fun row =>
    chainedTruth (tests.map fun (chain, test) => (chain, test row)) == some true
  let rows := selected.map fun row => found.flatten.map fun source => source.value row
  ResultSet.readOut read (found.flatten.map (·.name))
    (match statement.operation with
      | .select true => dropRepeated rows
      | .select false => rows)

end StoredTable
end SqlSelect

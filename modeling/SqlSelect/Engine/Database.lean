import SqlSelect.Engine.Table

namespace SqlSelect

structure Database where
  tables : List StoredTable := []

inductive Command where
  | create (name : String) (columns : List (String × CellType))
  | insert (name : String) (rows : List (List Cell))
  | query (statement : Statement) (qualify : Qualify)

namespace Database

def find? (database : Database) (name : String) : Option StoredTable :=
  database.tables.find? fun table => Text.sameLetters table.name name

def query (database : Database) (read : Cell → Except QueryError Cell) (statement : Statement) (qualify : Qualify) :
    Except QueryError ResultSet :=
  match statement.base, statement.joints, statement.grouping with
  | some base, [], none =>
    match database.find? (statement.tables.table base).basename with
    | none => .error (.database "the table does not exist")
    | some table =>
      if Text.isWritable (statement.render .ansi qualify) then
        table.answer read statement base (.of .ansi qualify statement.tables)
      else .error (.database "the statement cannot be written")
  | _, _, _ => .error (.database "the statement is not known here")

def canCreate (name : String) (columns : List (String × CellType)) : Bool :=
  Text.areNames [name] && Text.areNames (columns.map (·.1)) && CellType.areValid columns

def run (database : Database) (read : Cell → Except QueryError Cell) : Command → Database × Except QueryError ResultSet
  | .create name columns =>
    match database.find? name with
    | some _ => (database, .error (.database "the table exists"))
    | none =>
      if canCreate name columns then (⟨database.tables ++ [⟨name, columns, []⟩]⟩, .ok ⟨[], []⟩)
      else (database, .error (.database "the table cannot be created"))
  | .insert name rows =>
    match database.find? name with
    | none => (database, .error (.database "the table does not exist"))
    | some table =>
      if rows.all table.admits then
        (⟨database.tables.map fun table =>
            if Text.sameLetters table.name name then { table with rows := table.rows ++ rows } else table⟩,
          .ok ⟨[], []⟩)
      else (database, .error (.database "a row does not fit the table"))
  | .query statement qualify => (database, database.query read statement qualify)

end Database
end SqlSelect

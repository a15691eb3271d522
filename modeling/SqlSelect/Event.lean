import SqlSelect.Operation

namespace SqlSelect

inductive Level where
  | trace | debug | info | warn
  deriving DecidableEq, Repr

def Level.name : Level → String
  | trace => "TRACE"
  | debug => "DEBUG"
  | info => "INFO"
  | warn => "WARN"

inductive Event where
  | tableReused (request aliasName : String)
  | tableRegistered (basename aliasName : String) (isRoot : Bool) (collisions : Nat)
  | operationSet (operation : Operation)
  | columnRepeated (aliasName column : String)
  | generated (operation : Operation) (tables : Nat) (sql : String)
  | executed (ok : Bool)
  | configFromVariable
  | configFromDirectory
  | configFromUser
  | variableIgnored
  | configDefault
  | executorCreated (maxConcurrency : Nat)
  | connectionOpened
  | waitingForSlot
  deriving DecidableEq, Repr

namespace Event

def level : Event → Level
  | tableReused .. | operationSet _ => .trace
  | configFromVariable | configFromDirectory | configFromUser | executorCreated _ => .info
  | variableIgnored => .warn
  | _ => .debug

def message : Event → String
  | tableReused .. => "reusing registered table"
  | tableRegistered .. => "registered table"
  | operationSet _ => "operation set"
  | columnRepeated .. => "column already selected, skipping"
  | generated .. => "generated statement"
  | executed _ => "executed statement"
  | configFromVariable => "loaded config from QUILLSQL_CONFIG"
  | configFromDirectory => "loaded config from ./quillsql.toml"
  | configFromUser => "loaded config from user config dir"
  | variableIgnored => "ignoring QUILLSQL_CONFIG"
  | configDefault => "no config file found, using defaults"
  | executorCreated _ => "creating DuckDB executor"
  | connectionOpened => "opening new DuckDB connection"
  | waitingForSlot => "all DuckDB slots in use, waiting for permit"

def boolText (value : Bool) : String := if value then "true" else "false"

def fields : Event → List (String × String)
  | tableReused request aliasName => [("request", request), ("alias", aliasName)]
  | tableRegistered basename aliasName isRoot collisions =>
    [("table", basename), ("alias", aliasName), ("is_root", boolText isRoot),
      ("collisions", toString collisions)]
  | operationSet operation => [("operation", operation.describe)]
  | columnRepeated aliasName column => [("table", aliasName), ("column", column)]
  | generated operation tables sql =>
    [("operation", operation.kind), ("tables", toString tables), ("sql", sql)]
  | executed ok => [("ok", boolText ok)]
  | executorCreated maxConcurrency => [("max_concurrency", toString maxConcurrency)]
  | _ => []

end Event
end SqlSelect

import SqlSelect.Engine.Pool
import SqlSelect.Engine.Database
import SqlSelect.Query

namespace SqlSelect

inductive Storage where
  | memory | file | unreachable
  deriving DecidableEq, Repr

/-- The pool, what a result gives for a cell, which is up to the library that talks to the database, and the databases
by number: a connection's own number in memory, zero in a file. -/
structure Engine where
  storage : Storage
  pool : Pool
  read : Cell → Except QueryError Cell
  databases : List (Nat × Database) := []

inductive Pending where
  | ended (result : Except QueryError ResultSet)
  | started (call : Nat) (command : Command)

structure EngineReply (α : Type) where
  engine : Engine
  events : List Event
  value : α

namespace Engine

def dialect : Dialect := .ansi

def start (storage : Storage) (maxConcurrency : Nat) (read : Cell → Except QueryError Cell := .ok) :
    EngineReply Unit :=
  ⟨{ storage, read, pool := .start maxConcurrency }, [.executorCreated maxConcurrency], ()⟩

def step (engine : Engine) (step : PoolStep) : Engine :=
  { engine with pool := (engine.pool.step? step).getD engine.pool }

def databaseNumber (engine : Engine) (connection : Nat) : Nat :=
  match engine.storage with
  | .file => 0
  | _ => connection

def database (engine : Engine) (number : Nat) : Database :=
  ((engine.databases.find? (·.1 == number)).map (·.2)).getD {}

def setDatabase (engine : Engine) (number : Nat) (database : Database) : Engine :=
  { engine with databases := (number, database) :: engine.databases.filter (·.1 != number) }

def enter? (engine : Engine) (call : Nat) : Option (Engine × List Event) := do
  let pool ← engine.pool.step? (.takeSlot call)
  let engine := { engine with pool }.step (.checkOut call)
  match engine.pool.phase? call with
  | some .connecting =>
    some (engine.step (.connect call (engine.storage != .unreachable)), [.connectionOpened])
  | _ => some (engine, [])

def beginCall (engine : Engine) : EngineReply Nat :=
  let call := engine.pool.calls.length
  let engine := engine.step .arrive
  match engine.enter? call with
  | some (engine, events) => ⟨engine, events, call⟩
  | none => ⟨engine, [.waitingForSlot], call⟩

def endCall (engine : Engine) (call : Nat) (command : Command) : Engine × Except QueryError ResultSet :=
  match engine.pool.phase? call with
  | some (.running connection) =>
    let number := engine.databaseNumber connection
    let (database, result) := (engine.database number).run engine.read command
    let engine := (engine.setDatabase number database).step (.conclude call result.isOk)
    ((engine.step (.putBack call)).step (.release call), result)
  | _ => (engine.step (.release call), .error (.execution "no connection to the database"))

def completeCall (engine : Engine) (call : Nat) (command : Command) :
    EngineReply (Except QueryError ResultSet) :=
  let (engine, events) := (engine.enter? call).getD (engine, [])
  let (engine, result) := engine.endCall call command
  ⟨engine, events, result⟩

def execute (engine : Engine) (command : Command) : EngineReply (Except QueryError ResultSet) :=
  let began := engine.beginCall
  let completed := began.engine.completeCall began.value command
  ⟨completed.engine, began.events ++ completed.events, completed.value⟩

def beginQuery (engine : Engine) (query : Query) : EngineReply Pending :=
  match query.statement? with
  | none => ⟨engine, [], .ended (.error .noOperation)⟩
  | some statement =>
    let command := Command.query statement query.qualify
    let began := engine.beginCall
    let events := query.generateEvents ++ began.events
    match began.engine.pool.phase? began.value with
    | some .leaving =>
      let (engine, result) := began.engine.endCall began.value command
      ⟨engine, events ++ [.executed result.isOk], .ended result⟩
    | _ => ⟨began.engine, events, .started began.value command⟩

def completeQuery (engine : Engine) : Pending → EngineReply (Except QueryError ResultSet)
  | .ended result => ⟨engine, [], result⟩
  | .started call command =>
    let completed := engine.completeCall call command
    ⟨completed.engine, completed.events ++ [.executed completed.value.isOk], completed.value⟩

def get (engine : Engine) (query : Query) : EngineReply (Except QueryError ResultSet) :=
  let began := engine.beginQuery query
  let completed := began.engine.completeQuery began.value
  ⟨completed.engine, began.events ++ completed.events, completed.value⟩

def getBoth (engine : Engine) (first second : Query) :
    EngineReply (Except QueryError ResultSet × Except QueryError ResultSet) :=
  let began := engine.beginQuery first
  let began' := began.engine.beginQuery second
  let completed := began'.engine.completeQuery began.value
  let completed' := completed.engine.completeQuery began'.value
  ⟨completed'.engine, began.events ++ began'.events ++ completed.events ++ completed'.events,
    (completed.value, completed'.value)⟩

end Engine
end SqlSelect

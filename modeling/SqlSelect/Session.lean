import SqlSelect.Query
import SqlSelect.ResultSet

namespace SqlSelect

structure Executor where
  dialect : Dialect
  answer : List String → String → Except QueryError ResultSet

structure Attached where
  executor : Executor
  received : List String := []

/-- A query, the executor attached to it if there is one, and the executors that were attached before, in
order. -/
structure Session where
  query : Query := {}
  current : Option Attached := none
  earlier : List Attached := []

structure Reply where
  session : Session
  events : List Event
  result : Except QueryError ResultSet

inductive Action where
  | call (call : Call)
  | attach (executor : Executor)
  | get

namespace Session

def attach (session : Session) (executor : Executor) : Session :=
  { query := { session.query with dialect := executor.dialect }
    current := some { executor }
    earlier := session.earlier ++ session.current.toList }

def restart (session : Session) (query : Query) : Session :=
  { query, current := none, earlier := session.earlier ++ session.current.toList }

def call (session : Session) (call : Call) : Session :=
  { session with query := (session.query.run call).query }

def get (session : Session) : Reply :=
  match session.query.generate with
  | .error fault => ⟨session, [], .error fault⟩
  | .ok sql =>
    match session.current with
    | none => ⟨session, session.query.generateEvents, .error .noExecutor⟩
    | some attached =>
      let result := attached.executor.answer attached.received sql
      let received := attached.received ++ [sql]
      ⟨{ session with current := some { attached with received } },
        session.query.generateEvents ++ [.executed result.isOk], result⟩

def act (session : Session) : Action → Session
  | .call call => session.call call
  | .attach executor => session.attach executor
  | .get => session.get.session

def received (session : Session) : List String :=
  match session.current with
  | some attached => attached.received
  | none => (session.earlier.getLast?.map (·.received)).getD []

theorem get_query (session : Session) : session.get.session.query = session.query := by
  unfold get
  split
  · rfl
  · split <;> rfl

end Session
end SqlSelect

import Mathlib.Data.List.Induction
import SqlSelect.Session
import SqlSelect.Proofs.Query.Order

namespace SqlSelect

namespace Query

variable (query : Query) (dialect : Dialect) (qualify : Qualify)

def restyle : Query := { query with dialect, qualify }

theorem select_restyle (request : String) (columns : List ColumnSpec) (distinct : Bool) :
    ((query.restyle dialect qualify).select request columns distinct).query =
      (query.select request columns distinct).query.restyle dialect qualify := by
  rcases query.fits_or_conflict distinct with fits | ⟨current, set, differs⟩
  · rw [select_of_fits query request columns distinct fits,
      select_of_fits (query.restyle dialect qualify) request columns distinct fits]
    cases result : query.tables.resolve request true <;> simp only [restyle, result] <;> rfl
  · rw [select_of_conflict query request columns distinct current set differs,
      select_of_conflict (query.restyle dialect qualify) request columns distinct current set differs]
    rfl

theorem filter_restyle (chain : Chain) (reference : String) (operator : OperatorSpec) (value : Json) :
    ((query.restyle dialect qualify).filter chain reference operator value).query =
      (query.filter chain reference operator value).query.restyle dialect qualify := by
  cases readable : operator.resolve with
  | error fault => simp only [filter, readable]; rfl
  | ok known =>
    cases result : query.tables.resolveColumn query.base reference <;>
      simp only [filter, readable, restyle, result] <;> rfl

theorem join_restyle (request left right : String) :
    ((query.restyle dialect qualify).join request left right).query =
      (query.join request left right).query.restyle dialect qualify := by
  cases targeted : query.tables.resolve request false with
  | error fault => simp only [join, restyle, targeted]; rfl
  | ok target =>
    cases opened : target.registry.resolveColumn query.base left with
    | error fault => simp only [join, restyle, targeted, opened]; rfl
    | ok first =>
      cases closed : first.registry.resolveColumn query.base right <;>
        simp only [join, restyle, targeted, opened, closed] <;> rfl

theorem groupBy_restyle (request column : String) :
    ((query.restyle dialect qualify).groupBy request column).query =
      (query.groupBy request column).query.restyle dialect qualify := by
  cases unnamed : Text.isAllBlank column with
  | true => simp only [groupBy, unnamed, if_true]; rfl
  | false =>
    cases result : query.tables.resolve request false <;>
      simp only [groupBy, unnamed, Bool.false_eq_true, if_false, restyle, result] <;> rfl

theorem run_restyle (call : Call) (builds : call.kind?.isSome = true) :
    ((query.restyle dialect qualify).run call).query = (query.run call).query.restyle dialect qualify := by
  cases call with
  | select request columns distinct => exact query.select_restyle dialect qualify request columns distinct
  | filter chain reference operator value => exact query.filter_restyle dialect qualify chain reference operator value
  | openGroup | closeGroup => rfl
  | join request left right => exact query.join_restyle dialect qualify request left right
  | groupBy request column => exact query.groupBy_restyle dialect qualify request column
  | setDialect | setQualify => cases builds

end Query

namespace Action

def building? : Action → Option Call
  | call made => if made.kind?.isSome then some made else none
  | attach _ | get => none

def dialect? : Action → Option Dialect
  | call (.setDialect dialect) => some dialect
  | attach executor => some executor.dialect
  | call _ | get => none

def qualify? : Action → Option Qualify
  | call (.setQualify qualify) => some qualify
  | call _ | attach _ | get => none

def executor? : Action → Option Executor
  | attach executor => some executor
  | call _ | get => none

def last {Choice : Type} (choice? : Action → Option Choice) (start : Choice) (actions : List Action) : Choice :=
  (actions.filterMap choice?).getLast?.getD start

def built (actions : List Action) : Query := ({} : Query).runAll (actions.filterMap building?)

def delivery? (before : List Action) : Option (Nat × String) :=
  if before.filterMap executor? = [] then none
  else (built before).statement?.map fun statement =>
    ((before.filterMap executor?).length, statement.render (last dialect? .plain before) (last qualify? .auto before))

def handed (before : List Action) : Action → List (Nat × String)
  | get => (delivery? before).toList
  | call _ | attach _ => []

def deliveries (before : List Action) : List Action → List (Nat × String)
  | [] => []
  | action :: after => handed before action ++ deliveries (before ++ [action]) after

variable (actions : List Action) (action : Action)

theorem last_push {Choice : Type} (choice? : Action → Option Choice) (start : Choice) :
    last choice? start (actions ++ [action]) = (choice? action).getD (last choice? start actions) := by
  rw [last, List.filterMap_append, List.getLast?_append, last]
  cases chosen : choice? action <;> simp [chosen]

theorem built_push : built (actions ++ [action]) = (built actions).runAll action.building?.toList := by
  rw [built, List.filterMap_append, Query.runAll_append, built]
  cases building : action.building? <;> simp [building]

theorem deliveries_push (before : List Action) :
    deliveries before (actions ++ [action]) = deliveries before actions ++ handed (before ++ actions) action := by
  induction actions generalizing before with
  | nil => simp [deliveries]
  | cons first actions ih => simp [deliveries, ih]

end Action

namespace Session

def actAll (session : Session) (actions : List Action) : Session := actions.foldl act session

theorem actAll_push (session : Session) (actions : List Action) (action : Action) :
    session.actAll (actions ++ [action]) = (session.actAll actions).act action :=
  List.foldl_append

def attachments (session : Session) : List Attached := session.earlier ++ session.current.toList

def log (session : Session) : List (Nat × String) :=
  (session.attachments.zipIdx 1).flatMap fun (attached, number) => attached.received.map fun sql => (number, sql)

structure Records (session : Session) (actions : List Action) : Prop where
  query : session.query = (Action.built actions).restyle (Action.last Action.dialect? .plain actions)
    (Action.last Action.qualify? .auto actions)
  executors : session.attachments.map (·.executor) = actions.filterMap Action.executor?
  latest : session.current.map (·.executor) = (actions.filterMap Action.executor?).getLast?
  log : session.log = Action.deliveries [] actions

/-- What a get does behind actions: with an operation and an executor, it hands the executor that was attached last the
text of the query, and returns what the executor answers. -/
structure Serves (session : Session) (actions : List Action) : Prop where
  query : session.get.session.query = session.query
  idle : session.query.operation = none →
    session.get.session = session ∧ session.get.result = .error .noOperation
  detached : session.query.operation.isSome = true → actions.filterMap Action.executor? = [] →
    session.get.session = session ∧ session.get.result = .error .noExecutor
  attached : session.query.operation.isSome = true →
    ∀ executor, (actions.filterMap Action.executor?).getLast? = some executor →
      ∃ received sql, session.current = some ⟨executor, received⟩ ∧ session.query.generate = .ok sql ∧
        session.get.session = { session with current := some ⟨executor, received ++ [sql]⟩ } ∧
        session.get.result = executor.answer received sql

variable (session : Session)

theorem get_of_idle (idle : session.query.operation = none) :
    session.get.session = session ∧ session.get.result = .error .noOperation := by
  have unset : session.query.generate = .error .noOperation := by
    simp only [Query.generate, Query.statement?, idle, Option.map_none]
  simp only [get, unset, and_self]

theorem generate_of_started (started : session.query.operation.isSome = true) :
    ∃ statement, session.query.statement? = some statement ∧
      session.query.generate = .ok (statement.render session.query.dialect session.query.qualify) := by
  obtain ⟨operation, set⟩ := Option.isSome_iff_exists.mp started
  simp only [Query.generate, Query.statement?, set, Option.map_some, Option.some.injEq, exists_eq_left']

theorem get_of_detached (started : session.query.operation.isSome = true) (detached : session.current = none) :
    session.get.session = session ∧ session.get.result = .error .noExecutor := by
  obtain ⟨statement, _, text⟩ := session.generate_of_started started
  simp only [get, text, detached, and_self]

theorem get_of_attached (sql : String) (text : session.query.generate = .ok sql) (attached : Attached)
    (current : session.current = some attached) :
    session.get.session = { session with current := some ⟨attached.executor, attached.received ++ [sql]⟩ } ∧
      session.get.result = attached.executor.answer attached.received sql := by
  simp only [get, text, current, and_self]

theorem log_attach (executor : Executor) : (session.attach executor).log = session.log := by
  simp [log, attachments, attach, List.zipIdx_append]

theorem log_hand (attached : Attached) (current : session.current = some attached) (sql : String) :
    { session with current := some ⟨attached.executor, attached.received ++ [sql]⟩ }.log =
      session.log ++ [(session.attachments.length, sql)] := by
  simp [log, attachments, current, List.zipIdx_append, Nat.add_comm]

theorem query_act (query : Query) (dialect : Dialect) (qualify : Qualify)
    (same : session.query = query.restyle dialect qualify) (action : Action) :
    (session.act action).query = (query.runAll action.building?.toList).restyle
      (action.dialect?.getD dialect) (action.qualify?.getD qualify) := by
  cases action with
  | call made =>
    rw [act, call, same]
    cases made with
    -- the choices do not matter to these, so they may as well come behind them
    | select | filter | openGroup | closeGroup | join | groupBy => exact query.run_restyle dialect qualify _ rfl
    | setDialect | setQualify => rfl
  | attach executor =>
    rw [act, attach, same]
    rfl
  | get =>
    rw [act, get_query, same]
    rfl

theorem serves_of_records (actions : List Action) (records : session.Records actions) : session.Serves actions := by
  constructor
  case query => exact session.get_query
  case idle => exact session.get_of_idle
  case detached =>
    intro started none_attached
    have latest := records.latest
    rw [none_attached, List.getLast?_nil, Option.map_eq_none_iff] at latest
    exact session.get_of_detached started latest
  case attached =>
    intro started executor last
    obtain ⟨statement, _, text⟩ := session.generate_of_started started
    have latest := records.latest
    rw [last, Option.map_eq_some_iff] at latest
    obtain ⟨attached, current, rfl⟩ := latest
    exact ⟨attached.received, _, current, text, session.get_of_attached _ text attached current⟩

/-- What a get hands over, read off the session. -/
theorem delivery?_of_records (actions : List Action) (records : session.Records actions) :
    Action.delivery? actions = session.current.bind fun _ => session.query.statement?.map fun statement =>
      (session.attachments.length, statement.render session.query.dialect session.query.qualify) := by
  have latest := records.latest
  rw [Action.delivery?, ← records.executors, List.length_map, records.executors, records.query]
  cases current : session.current with
  | none =>
    rw [current, Option.map_none, eq_comm, List.getLast?_eq_none_iff] at latest
    rw [if_pos latest]
    rfl
  | some attached =>
    rw [current, Option.map_some] at latest
    have some_attached : actions.filterMap Action.executor? ≠ [] := by
      intro none_attached
      rw [none_attached] at latest
      cases latest
    rw [if_neg some_attached]
    rfl

theorem log_get (actions : List Action) (records : session.Records actions) :
    session.get.session.log = session.log ++ (Action.delivery? actions).toList := by
  rw [session.delivery?_of_records actions records]
  cases idle : session.query.operation with
  | none =>
    rw [(session.get_of_idle idle).1, Query.statement?, idle]
    cases session.current <;> simp
  | some operation =>
    have started : session.query.operation.isSome = true := Option.isSome_iff_exists.mpr ⟨operation, idle⟩
    cases current : session.current with
    | none => simp [(session.get_of_detached started current).1]
    | some attached =>
      obtain ⟨statement, set, text⟩ := session.generate_of_started started
      rw [(session.get_of_attached _ text attached current).1, session.log_hand attached current, set]
      rfl

theorem executors_get :
    session.get.session.attachments.map (·.executor) = session.attachments.map (·.executor) ∧
      session.get.session.current.map (·.executor) = session.current.map (·.executor) := by
  unfold get
  split
  · exact ⟨rfl, rfl⟩
  · split
    · exact ⟨rfl, rfl⟩
    · rename_i current
      simp [attachments, current]

theorem Records.act (actions : List Action) (records : session.Records actions) (action : Action) :
    (session.act action).Records (actions ++ [action]) := by
  constructor
  case query =>
    rw [Action.built_push, Action.last_push, Action.last_push]
    exact session.query_act _ _ _ records.query action
  case executors =>
    rw [List.filterMap_append, ← records.executors]
    cases action with
    | call made => exact (List.append_nil _).symm
    | attach executor => simp [Session.act, attach, attachments, Action.executor?]
    | get => simp [Session.act, session.executors_get.1, Action.executor?]
  case latest =>
    rw [List.filterMap_append, List.getLast?_append, ← records.latest]
    cases action with
    | call made => rfl
    | attach executor => rfl
    | get => exact session.executors_get.2
  case log =>
    rw [Action.deliveries_push, ← records.log]
    cases action with
    | call made => exact (List.append_nil _).symm
    | attach executor => rw [Session.act, log_attach, Action.handed, List.append_nil]
    | get => exact session.log_get actions records

theorem records_actAll (actions : List Action) : (({} : Session).actAll actions).Records actions := by
  -- at the end of the list, since a get depends on all that is before it
  induction actions using List.reverseRecOn with
  | nil => exact ⟨rfl, rfl, rfl, rfl⟩
  | append_singleton actions action ih =>
    rw [actAll_push]
    exact ih.act _ actions action

/-- Take any run of building calls, choices, executors and gets, failed ones included. The texts that were handed over
are those of the gets that had an operation and an executor, in order: each went to the executor attached last before
it, in the dialect chosen last before it. A get behind the run is answered by that executor or fails as said, and leaves
the query as it is. -/
theorem deliveries_of_run (actions : List Action) :
    let session := ({} : Session).actAll actions
    session.Records actions ∧ session.Serves actions := by
  intro session
  have records : session.Records actions := records_actAll actions
  exact ⟨records, session.serves_of_records actions records⟩

/-- The second executor is handed only what comes behind it, and gets fail before there is a statement and before there
is an executor. -/
theorem deliveries_of_run_replaced :
    let select := Action.call (.select "users" [⟨"id", none⟩] false)
    let first : Executor := ⟨.ansi, fun _ _ => .error (.execution "closed")⟩
    let second : Executor := ⟨.plain, fun received _ => .ok ⟨received, []⟩⟩
    let session := ({} : Session).actAll [.get, select, .get, .attach first, .get, .call (.setDialect .mysql), .get,
      .attach second, .call (.filter .and "age" (.typed .gt) (.integer 18)), .get]
    session.log = [(1, "SELECT \"id\" FROM \"users\""), (1, "SELECT `id` FROM `users`"),
        (2, "SELECT id FROM users WHERE age > 18")] ∧
      (∃ received, session.current = some ⟨second, received⟩ ∧ session.get.result = .ok ⟨received, []⟩) ∧
      (({} : Session).actAll [.attach first]).get.result = .error .noOperation ∧
      (({} : Session).actAll [select]).get.result = .error .noExecutor := by
  intro select first second session
  obtain ⟨records, serves⟩ := deliveries_of_run [.get, select, .get, .attach first, .get,
    .call (.setDialect .mysql), .get, .attach second, .call (.filter .and "age" (.typed .gt) (.integer 18)), .get]
  refine ⟨records.log.trans (by decide +kernel), ?_, ?_, ?_⟩
  · obtain ⟨received, sql, current, _, _, answered⟩ := serves.attached (by decide +kernel) second rfl
    exact ⟨received, current, answered⟩
  · exact ((deliveries_of_run [.attach first]).2.idle rfl).2
  · exact ((deliveries_of_run [select]).2.detached (by decide +kernel) rfl).2

end Session
end SqlSelect

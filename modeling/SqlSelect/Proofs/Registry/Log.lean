import SqlSelect.Proofs.Registry.Provenance

namespace SqlSelect

namespace Event

def isReuse : Event → Bool
  | tableReused .. => true
  | _ => false

def isRegistration : Event → Bool
  | tableRegistered .. => true
  | _ => false

def isOfTable (event : Event) : Bool := event.isReuse || event.isRegistration

end Event

namespace Registry

def reports (registry : Registry) (request : String) (isRoot : Bool) : List Event :=
  match registry.resolve request isRoot with
  | .ok resolved => [resolved.event]
  | .error _ => []

def log (registry : Registry) : List (String × Bool) → List Event
  | [] => []
  | request :: requests =>
    registry.reports request.1 request.2 ++ (registry.attempt request.1 request.2).log requests

theorem log_append (registry : Registry) (left right : List (String × Bool)) :
    registry.log (left ++ right) = registry.log left ++ (registry.resolveAll left).log right := by
  induction left generalizing registry with
  | nil => rfl
  | cons request left ih => rw [List.cons_append, log, log, ih, resolveAll_cons, List.append_assoc]

inductive Reported (registry : Registry) (request : String) (isRoot : Bool) : List Event → Registry → Prop where
  | failed (fault : QueryError) (refused : registry.resolve request isRoot = .error fault) :
    Reported registry request isRoot [] registry
  | reused (id : Nat) (table : Table) (held : registry.get? id = some table)
    (found : registry.resolve request isRoot = .ok ⟨id, registry, .tableReused request table.aliasName⟩) :
    Reported registry request isRoot [.tableReused request table.aliasName] registry
  | registered (parsed : TableRequest) (readable : TableRequest.parse request = .ok parsed) (table : Table)
    (event : Event) (named : table.basename = parsed.basename) (marked : table.isRoot = isRoot)
    (declared : table.isDeclared = parsed.aliasName.isSome)
    (same : event = .tableRegistered table.basename table.aliasName isRoot
      (if parsed.aliasName.isSome then 0 else registry.countName parsed.basename))
    (found : registry.resolve request isRoot = .ok ⟨registry.size, ⟨registry.tables ++ [table]⟩, event⟩) :
    Reported registry request isRoot [event] ⟨registry.tables ++ [table]⟩

theorem collisions_of_register (registry : Registry) (request : TableRequest) (isRoot : Bool) (collisions : Nat)
    (checked : registry.check request isRoot = .ok (.register collisions)) :
    collisions = if request.aliasName.isSome then 0 else registry.countName request.basename := by
  obtain ⟨name, _ | aliasName⟩ := request
  · exact (check_bare_register registry name isRoot collisions checked).2
  · simp only [check, resolveAliased] at checked
    split at checked
    · split at checked <;> cases checked
    · split at checked
      · cases checked
        rfl
      · split at checked <;> cases checked

theorem resolve_of_register (registry : Registry) (request : String) (parsed : TableRequest) (isRoot : Bool)
    (collisions : Nat) (readable : TableRequest.parse request = .ok parsed)
    (checked : registry.check parsed isRoot = .ok (.register collisions)) :
    let table := registry.newTable parsed isRoot collisions
    registry.resolve request isRoot = .ok ⟨registry.size, ⟨registry.tables ++ [table]⟩,
      .tableRegistered table.basename table.aliasName isRoot collisions⟩ := by
  simp only [resolve, readable, checked, bind, Except.bind]

theorem reported (registry : Registry) (request : String) (isRoot : Bool) :
    registry.Reported request isRoot (registry.reports request isRoot) (registry.attempt request isRoot) := by
  cases result : registry.resolve request isRoot with
  | error fault =>
    simp only [reports, attempt, result]
    exact .failed fault result
  | ok resolved =>
    obtain ⟨parsed, readable, outcome⟩ := check_of_resolve registry request isRoot resolved result
    rcases outcome with ⟨table, checked, _⟩ | ⟨collisions, checked, _⟩
    · have found := resolve_of_reuse registry request parsed isRoot resolved.id table readable checked
      simp only [reports, attempt, found]
      exact .reused resolved.id table (get?_of_check registry parsed isRoot _ table checked) found
    · have found := resolve_of_register registry request parsed isRoot collisions readable checked
      simp only [reports, attempt, found]
      apply Reported.registered parsed readable _ _ (basename_newTable ..) (isRoot_newTable ..)
        (isDeclared_newTable ..) _ found
      rw [← collisions_of_register registry parsed isRoot collisions checked]

theorem isOfTable_of_mem_log (registry : Registry) (requests : List (String × Bool)) (event : Event)
    (logged : event ∈ registry.log requests) : event.isOfTable = true := by
  induction requests generalizing registry with
  | nil => cases logged
  | cons request requests ih =>
    rcases List.mem_append.mp logged with first | rest
    · have reported := registry.reported request.1 request.2
      generalize registry.reports request.1 request.2 = events at reported first
      generalize registry.attempt request.1 request.2 = later at reported
      cases reported with
      | failed => cases first
      | reused =>
        rw [List.mem_singleton.mp first]
        rfl
      | registered _ _ _ _ _ _ _ same =>
        rw [List.mem_singleton.mp first, same]
        rfl
    · exact ih _ rest

def registration (registry : Registry) (id : Nat) (table : Table) : Event :=
  .tableRegistered table.basename table.aliasName table.isRoot
    (if table.isDeclared then 0 else (registry.before id).countName table.basename)

def registrations (registry : Registry) : List Event := registry.tables.mapIdx registry.registration

theorem registrations_push (registry : Registry) (table : Table) :
    registrations ⟨registry.tables ++ [table]⟩ =
      registry.registrations ++ [.tableRegistered table.basename table.aliasName table.isRoot
        (if table.isDeclared then 0 else registry.countName table.basename)] := by
  have kept : registry.tables.mapIdx (registration ⟨registry.tables ++ [table]⟩) = registry.registrations := by
    rw [registrations, List.mapIdx_eq_mapIdx_iff]
    intro id known
    rw [registration, registration, before_of_lt registry table id known]
  rw [registrations, List.mapIdx_concat, kept, registration]
  rw [show registry.tables.length = registry.size from rfl, before_size]

theorem registrations_attempt (registry : Registry) (request : String) (isRoot : Bool) :
    (registry.attempt request isRoot).registrations =
      registry.registrations ++ (registry.reports request isRoot).filter Event.isRegistration := by
  have reported := registry.reported request isRoot
  generalize registry.attempt request isRoot = later at reported ⊢
  generalize registry.reports request isRoot = events at reported ⊢
  cases reported with
  | failed => exact (List.append_nil _).symm
  | reused => exact (List.append_nil _).symm
  | registered parsed _ table event named marked declared same _ =>
    rw [registrations_push, same, marked, declared, named]
    rfl

theorem registrations_resolveAll (registry : Registry) (requests : List (String × Bool)) :
    (registry.resolveAll requests).registrations =
      registry.registrations ++ (registry.log requests).filter Event.isRegistration := by
  induction requests generalizing registry with
  | nil => exact (List.append_nil _).symm
  | cons request requests ih =>
    rw [resolveAll_cons, ih, registrations_attempt, log, List.filter_append, List.append_assoc]

end Registry
end SqlSelect

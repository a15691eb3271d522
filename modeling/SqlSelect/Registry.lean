import SqlSelect.Table
import SqlSelect.Event

namespace SqlSelect

structure Registry where
  tables : List Table := []
  deriving DecidableEq, Repr, Inhabited

inductive Resolution where
  | reuse (id : Nat) (table : Table)
  | register (collisions : Nat)
  deriving DecidableEq, Repr

structure Resolved where
  id : Nat
  registry : Registry
  event : Event
  deriving DecidableEq, Repr

namespace Registry

def size (registry : Registry) : Nat := registry.tables.length

def get? (registry : Registry) (id : Nat) : Option Table := registry.tables[id]?

/-- The table with this id. No statement holds an id without a table. -/
def table (registry : Registry) (id : Nat) : Table := (registry.get? id).getD default

theorem table_of_get? (registry : Registry) (id : Nat) (table : Table)
    (found : registry.get? id = some table) : registry.table id = table := by
  simp [Registry.table, found]

theorem get?_of_lt (registry : Registry) (id : Nat) (known : id < registry.size) :
    registry.get? id = some (registry.table id) := by
  have held : registry.get? id = some registry.tables[id] := List.getElem?_eq_getElem known
  rw [held, table_of_get? registry id _ held]

def locateFrom (p : Table → Bool) : Nat → List Table → Option (Nat × Table)
  | _, [] => none
  | id, table :: tables => if p table then some (id, table) else locateFrom p (id + 1) tables

def locate (registry : Registry) (p : Table → Bool) : Option (Nat × Table) :=
  locateFrom p 0 registry.tables

theorem locateFrom_eq_some (p : Table → Bool) (start id : Nat) (tables : List Table) (table : Table)
    (found : locateFrom p start tables = some (id, table)) :
    start ≤ id ∧ tables[id - start]? = some table ∧ p table = true := by
  induction tables generalizing start with
  | nil => simp [locateFrom] at found
  | cons first tables ih =>
    rw [locateFrom] at found
    split at found
    · cases found; simp_all
    · have ⟨le, at_id, holds⟩ := ih (start + 1) found
      refine ⟨by omega, ?_, holds⟩
      rw [show id - start = (id - (start + 1)) + 1 by omega]
      simpa using at_id

theorem locateFrom_eq_none_iff (p : Table → Bool) (start : Nat) (tables : List Table) :
    locateFrom p start tables = none ↔ ∀ table ∈ tables, p table = false := by
  induction tables generalizing start with
  | nil => simp [locateFrom]
  | cons first tables ih => by_cases holds : p first <;> simp [locateFrom, holds, ih]

theorem get?_of_locate (registry : Registry) (p : Table → Bool) (id : Nat) (table : Table)
    (found : registry.locate p = some (id, table)) :
    registry.get? id = some table ∧ p table = true := by
  have ⟨_, at_id, holds⟩ := locateFrom_eq_some p 0 id registry.tables table found
  exact ⟨at_id, holds⟩

theorem locate_eq_none_iff (registry : Registry) (p : Table → Bool) :
    registry.locate p = none ↔ ∀ table ∈ registry.tables, p table = false :=
  locateFrom_eq_none_iff p 0 registry.tables

def findByAlias (registry : Registry) (aliasName : String) : Option Nat :=
  (registry.locate (·.aliasName == aliasName)).map (·.1)

/-- A request without an alias names a table under that alias, a table of that name whose alias was not
declared, or, as a root, the root table of that name. -/
def answers (basename : String) (isRoot : Bool) (table : Table) : Bool :=
  table.aliasName == basename ||
    (table.basename == basename && (!table.isDeclared || (table.isRoot && isRoot)))

def countName (registry : Registry) (basename : String) : Nat :=
  registry.tables.countP (·.basename == basename)

def resolveBare (registry : Registry) (basename : String) (isRoot : Bool) : Resolution :=
  match registry.locate (answers basename isRoot) with
  | some (id, table) => .reuse id table
  | none => .register (registry.countName basename)

/-- A request with an alias names the holder of the alias, which must have the same name. Where the alias is
free, a root request names the root table of that name, whatever alias it asks for; any other request makes a new
table, unless one of that name is there that is not a root, from which the new one could not be told apart. -/
def resolveAliased (registry : Registry) (basename aliasName : String) (isRoot : Bool) :
    Except QueryError Resolution :=
  match registry.locate (·.aliasName == aliasName) with
  | some (id, table) =>
    if table.basename == basename then .ok (.reuse id table)
    else .error (.unresolvableTable basename aliasName)
  | none =>
    match registry.locate fun table => table.basename == basename && (isRoot || !table.isRoot) with
    | none => .ok (.register 0)
    | some (id, table) =>
      if table.isRoot then .ok (.reuse id table) else .error (.unresolvableTable basename aliasName)

def check (registry : Registry) (request : TableRequest) (isRoot : Bool) :
    Except QueryError Resolution :=
  match request.aliasName with
  | none => .ok (registry.resolveBare request.basename isRoot)
  | some aliasName => registry.resolveAliased request.basename aliasName isRoot

def numbered (basename : String) (counter : Nat) : String := basename ++ toString counter

def freeCounter (registry : Registry) (basename : String) : Nat → Nat → Nat
  | 0, counter => counter
  | fuel + 1, counter =>
    match registry.findByAlias (numbered basename counter) with
    | none => counter
    | some _ => registry.freeCounter basename fuel (counter + 1)

/-- The alias of one more table of a name that is there `collisions` times. Among one more counters than there are
tables one is free. -/
def disambiguate (registry : Registry) (basename : String) (collisions : Nat) : String :=
  numbered basename (registry.freeCounter basename (registry.size + 1) collisions)

def newTable (registry : Registry) (request : TableRequest) (isRoot : Bool) (collisions : Nat) : Table :=
  match request.aliasName with
  | some aliasName => ⟨request.basename, aliasName, isRoot, true⟩
  | none =>
    let aliasName :=
      if collisions = 0 then request.basename
      else registry.disambiguate request.basename collisions
    ⟨request.basename, aliasName, isRoot, false⟩

def resolve (registry : Registry) (request : String) (isRoot : Bool) : Except QueryError Resolved := do
  let parsed ← TableRequest.parse request
  match ← registry.check parsed isRoot with
  | .reuse id table => .ok ⟨id, registry, .tableReused request table.aliasName⟩
  | .register collisions =>
    let table := registry.newTable parsed isRoot collisions
    .ok ⟨registry.size, ⟨registry.tables ++ [table]⟩,
      .tableRegistered table.basename table.aliasName isRoot collisions⟩

theorem get?_of_check (registry : Registry) (request : TableRequest) (isRoot : Bool) (id : Nat)
    (table : Table) (reused : registry.check request isRoot = .ok (.reuse id table)) :
    registry.get? id = some table := by
  cases hint : request.aliasName with
  | none =>
    simp only [check, hint, resolveBare, Except.ok.injEq] at reused
    split at reused
    · rename_i found
      cases reused
      exact (get?_of_locate _ _ _ _ found).1
    · cases reused
  | some aliasName =>
    simp only [check, hint, resolveAliased] at reused
    split at reused
    · rename_i found
      split at reused <;> cases reused
      exact (get?_of_locate _ _ _ _ found).1
    · split at reused
      · cases reused
      · rename_i found
        split at reused <;> cases reused
        exact (get?_of_locate _ _ _ _ found).1

/-- A request that succeeds reuses a table and changes nothing, or puts a table at the end. -/
theorem resolve_cases (registry : Registry) (request : String) (isRoot : Bool) (resolved : Resolved)
    (success : registry.resolve request isRoot = .ok resolved) :
    (resolved.registry = registry ∧ ∃ table, registry.get? resolved.id = some table ∧
        resolved.event = .tableReused request table.aliasName) ∨
      ∃ parsed collisions, TableRequest.parse request = .ok parsed ∧
        registry.check parsed isRoot = .ok (.register collisions) ∧
        resolved.id = registry.size ∧
        resolved.registry.tables = registry.tables ++ [registry.newTable parsed isRoot collisions] := by
  unfold resolve at success
  cases readable : TableRequest.parse request with
  | error fault => simp [readable, bind, Except.bind] at success
  | ok parsed =>
    cases checked : registry.check parsed isRoot with
    | error fault => simp [readable, checked, bind, Except.bind] at success
    | ok resolution =>
      cases resolution with
      | reuse id table =>
        simp only [readable, checked, bind, Except.bind, Except.ok.injEq] at success
        subst success
        exact .inl ⟨rfl, table, get?_of_check _ _ _ _ _ checked, rfl⟩
      | register collisions =>
        simp only [readable, checked, bind, Except.bind, Except.ok.injEq] at success
        subst success
        exact .inr ⟨parsed, collisions, rfl, checked, rfl, rfl⟩

theorem resolve_lt_size (registry : Registry) (request : String) (isRoot : Bool) (resolved : Resolved)
    (success : registry.resolve request isRoot = .ok resolved) :
    resolved.id < resolved.registry.size := by
  rcases resolve_cases registry request isRoot resolved success with
    ⟨same, table, found, _⟩ | ⟨_, _, _, _, last, tables⟩
  · rw [same]
    exact (List.getElem?_eq_some_iff.mp found).1
  · simp [size, last, tables]

end Registry
end SqlSelect

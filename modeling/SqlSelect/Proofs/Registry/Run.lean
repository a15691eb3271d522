import SqlSelect.Registry

namespace SqlSelect.Registry

theorem resolve_of_reuse (registry : Registry) (request : String) (parsed : TableRequest) (isRoot : Bool)
    (id : Nat) (table : Table) (readable : TableRequest.parse request = .ok parsed)
    (checked : registry.check parsed isRoot = .ok (.reuse id table)) :
    registry.resolve request isRoot = .ok ⟨id, registry, .tableReused request table.aliasName⟩ := by
  simp only [resolve, readable, checked, bind, Except.bind]

theorem check_of_resolve (registry : Registry) (request : String) (isRoot : Bool) (resolved : Resolved)
    (success : registry.resolve request isRoot = .ok resolved) :
    ∃ parsed, TableRequest.parse request = .ok parsed ∧
      ((∃ table, registry.check parsed isRoot = .ok (.reuse resolved.id table) ∧
          resolved.registry = registry) ∨
        ∃ collisions, registry.check parsed isRoot = .ok (.register collisions) ∧
          resolved.id = registry.size ∧
          resolved.registry = ⟨registry.tables ++ [registry.newTable parsed isRoot collisions]⟩) := by
  unfold resolve at success
  cases readable : TableRequest.parse request with
  | error fault => simp [readable, bind, Except.bind] at success
  | ok parsed =>
    refine ⟨parsed, rfl, ?_⟩
    cases checked : registry.check parsed isRoot with
    | error fault => simp [readable, checked, bind, Except.bind] at success
    | ok resolution =>
      cases resolution
      all_goals
        simp only [readable, checked, bind, Except.bind, Except.ok.injEq] at success
        subst success
      · exact .inl ⟨_, rfl, rfl⟩
      · exact .inr ⟨_, rfl, rfl, rfl⟩

def attempt (registry : Registry) (request : String) (isRoot : Bool) : Registry :=
  match registry.resolve request isRoot with
  | .ok resolved => resolved.registry
  | .error _ => registry

def resolveAll (registry : Registry) (requests : List (String × Bool)) : Registry :=
  requests.foldl (fun registry request => registry.attempt request.1 request.2) registry

@[simp] theorem resolveAll_nil (registry : Registry) : registry.resolveAll [] = registry := rfl

@[simp] theorem resolveAll_cons (registry : Registry) (request : String × Bool)
    (requests : List (String × Bool)) :
    registry.resolveAll (request :: requests) =
      (registry.attempt request.1 request.2).resolveAll requests := rfl

theorem resolveAll_append (registry : Registry) (left right : List (String × Bool)) :
    registry.resolveAll (left ++ right) = (registry.resolveAll left).resolveAll right := by
  simp only [resolveAll, List.foldl_append]

theorem attempt_of_ok (registry : Registry) (request : String) (isRoot : Bool) (resolved : Resolved)
    (success : registry.resolve request isRoot = .ok resolved) :
    registry.attempt request isRoot = resolved.registry := by
  simp only [attempt, success]

theorem attempt_of_error (registry : Registry) (request : String) (isRoot : Bool) (fault : QueryError)
    (failure : registry.resolve request isRoot = .error fault) :
    registry.attempt request isRoot = registry := by
  simp only [attempt, failure]

theorem attempt_cases (registry : Registry) (request : String) (isRoot : Bool) :
    registry.attempt request isRoot = registry ∨
      ∃ parsed collisions, TableRequest.parse request = .ok parsed ∧
        registry.check parsed isRoot = .ok (.register collisions) ∧
        registry.attempt request isRoot =
          ⟨registry.tables ++ [registry.newTable parsed isRoot collisions]⟩ := by
  cases result : registry.resolve request isRoot with
  | error fault => exact .inl (attempt_of_error registry request isRoot fault result)
  | ok resolved =>
    rw [attempt_of_ok registry request isRoot resolved result]
    rcases resolve_cases registry request isRoot resolved result with
      ⟨same, _⟩ | ⟨parsed, collisions, readable, checked, _, tables⟩
    · exact .inl same
    · exact .inr ⟨parsed, collisions, readable, checked, by rw [← tables]⟩

/-- What no registration breaks holds after a run if it holds before it. -/
theorem resolveAll_induction (holds : Registry → Prop) (registry : Registry) (start : holds registry)
    (step : ∀ registry request parsed isRoot collisions, holds registry →
      TableRequest.parse request = .ok parsed →
      registry.check parsed isRoot = .ok (.register collisions) →
      holds ⟨registry.tables ++ [registry.newTable parsed isRoot collisions]⟩)
    (requests : List (String × Bool)) : holds (registry.resolveAll requests) := by
  induction requests generalizing registry with
  | nil => exact start
  | cons request requests ih =>
    rw [resolveAll_cons]
    apply ih
    rcases attempt_cases registry request.1 request.2 with
      same | ⟨parsed, collisions, readable, checked, grown⟩
    · rwa [same]
    · rw [grown]
      exact step registry request.1 parsed request.2 collisions start readable checked

theorem tables_resolveAll (registry : Registry) (requests : List (String × Bool)) :
    registry.tables <+: (registry.resolveAll requests).tables := by
  apply resolveAll_induction (registry.tables <+: ·.tables)
  · exact List.prefix_rfl
  · intro later request parsed isRoot collisions kept _ _
    exact kept.trans (List.prefix_append later.tables _)

theorem tables_of_resolve (registry : Registry) (request : String) (isRoot : Bool) (resolved : Resolved)
    (success : registry.resolve request isRoot = .ok resolved) :
    registry.tables <+: resolved.registry.tables := by
  have run := tables_resolveAll registry [(request, isRoot)]
  rwa [resolveAll_cons, resolveAll_nil, attempt_of_ok registry request isRoot resolved success] at run

theorem locateFrom_append (p : Table → Bool) (start : Nat) (tables added : List Table)
    (hit : Nat × Table) (found : locateFrom p start tables = some hit) :
    locateFrom p start (tables ++ added) = some hit := by
  induction tables generalizing start with
  | nil => cases found
  | cons table tables ih =>
    rw [List.cons_append, locateFrom]
    rw [locateFrom] at found
    split
    · simp_all
    · simp_all

theorem exists_locate_of_mem (registry : Registry) (p : Table → Bool) (table : Table)
    (member : table ∈ registry.tables) (holds : p table = true) : ∃ hit, registry.locate p = some hit := by
  apply Option.ne_none_iff_exists'.mp
  intro absent
  have unlike := (locate_eq_none_iff registry p).mp absent table member
  rw [holds] at unlike
  cases unlike

theorem locate_of_prefix (earlier later : Registry) (grown : earlier.tables <+: later.tables)
    (p : Table → Bool) (hit : Nat × Table) (found : earlier.locate p = some hit) :
    later.locate p = some hit := by
  obtain ⟨added, same⟩ := grown
  rw [locate, ← same]
  exact locateFrom_append p 0 earlier.tables added hit found

end SqlSelect.Registry

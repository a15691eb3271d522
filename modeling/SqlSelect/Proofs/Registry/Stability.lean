import SqlSelect.Proofs.Registry.Alias

namespace SqlSelect.Registry

/-- The tables that a request names by themselves: those that answer its name or, if it asks for an alias, the holder
of that alias. -/
def named (request : TableRequest) (isRoot : Bool) (table : Table) : Bool :=
  match request.aliasName with
  | none => answers request.basename isRoot table
  | some aliasName => table.aliasName == aliasName

theorem check_of_named (registry : Registry) (request : TableRequest) (isRoot : Bool) (id : Nat)
    (table : Table) (first : registry.locate (named request isRoot) = some (id, table))
    (fits : request.aliasName ≠ none → table.basename = request.basename) :
    registry.check request isRoot = .ok (.reuse id table) := by
  obtain ⟨basename, _ | aliasName⟩ := request
  · have hit : registry.locate (answers basename isRoot) = some (id, table) := first
    simp only [check, resolveBare, hit]
  · have hit : registry.locate (·.aliasName == aliasName) = some (id, table) := first
    have same : table.basename = basename := fits (by simp)
    simp only [check, resolveAliased, hit, same, BEq.rfl, if_true]

theorem named_of_reuse (registry : Registry) (request : TableRequest) (isRoot : Bool) (id : Nat)
    (table : Table) (checked : registry.check request isRoot = .ok (.reuse id table))
    (kept : request.aliasName = none ∨ request.aliasName = some table.aliasName) :
    registry.locate (named request isRoot) = some (id, table) ∧
      (request.aliasName ≠ none → table.basename = request.basename) := by
  obtain ⟨basename, _ | aliasName⟩ := request
  · simp only [check, resolveBare, Except.ok.injEq] at checked
    split at checked
    · rename_i hit
      cases checked
      exact ⟨hit, by simp⟩
    · cases checked
  · have holder : table.aliasName = aliasName := by simpa [eq_comm] using kept
    simp only [check, resolveAliased] at checked
    split at checked
    · rename_i hit
      split at checked
      · rename_i same
        cases checked
        exact ⟨hit, fun _ => beq_iff_eq.mp same⟩
      · cases checked
    · rename_i absent
      -- the alias is free, so a root table that is reused would have another one
      have known : table ∈ registry.tables := by
        split at checked
        · cases checked
        · rename_i hit
          split at checked
          · cases checked
            exact List.mem_of_getElem? (get?_of_locate registry _ _ _ hit).1
          · cases checked
      have other := (locate_eq_none_iff registry _).mp absent table known
      simp [holder] at other

theorem locateFrom_append_of_none (p : Table → Bool) (start : Nat) (tables : List Table) (table : Table)
    (absent : locateFrom p start tables = none) (holds : p table = true) :
    locateFrom p start (tables ++ [table]) = some (start + tables.length, table) := by
  induction tables generalizing start with
  | nil => simp [locateFrom, holds]
  | cons first tables ih =>
    rw [locateFrom] at absent
    split at absent
    · cases absent
    · rename_i other
      rw [List.cons_append, locateFrom, if_neg other, ih (start + 1) absent]
      simp only [List.length_cons, Option.some.injEq, Prod.mk.injEq, and_true]
      omega

theorem named_newTable (registry : Registry) (request : TableRequest) (isRoot : Bool) (collisions : Nat)
    (checked : registry.check request isRoot = .ok (.register collisions)) :
    let table := registry.newTable request isRoot collisions
    locate ⟨registry.tables ++ [table]⟩ (named request isRoot) = some (registry.size, table) ∧
      table.basename = request.basename := by
  intro table
  have absent : registry.locate (named request isRoot) = none := by
    rw [locate_eq_none_iff]
    intro other member
    obtain ⟨basename, _ | aliasName⟩ := request
    · exact (check_bare_register registry basename isRoot collisions checked).1 other member
    · have free := check_aliased_register registry basename aliasName isRoot collisions checked
      simp only [named, beq_eq_false_iff_ne]
      exact (registry.not_mem_aliases_iff aliasName).mp free other member
  have holds : named request isRoot table = true := by
    obtain ⟨basename, _ | aliasName⟩ := request <;> simp [named, table, newTable, answers]
  have hit := locateFrom_append_of_none _ 0 registry.tables table absent holds
  rw [Nat.zero_add] at hit
  refine ⟨hit, ?_⟩
  obtain ⟨basename, _ | aliasName⟩ := request <;> rfl

theorem resolve_of_named (registry : Registry) (request : String) (parsed : TableRequest) (isRoot : Bool)
    (id : Nat) (table : Table) (readable : TableRequest.parse request = .ok parsed)
    (first : registry.locate (named parsed isRoot) = some (id, table))
    (fits : parsed.aliasName ≠ none → table.basename = parsed.basename) :
    registry.resolve request isRoot = .ok ⟨id, registry, .tableReused request table.aliasName⟩ :=
  resolve_of_reuse registry request parsed isRoot id table readable
    (check_of_named registry parsed isRoot id table first fits)

theorem named_of_resolve (registry : Registry) (request : String) (parsed : TableRequest) (isRoot : Bool)
    (resolved : Resolved) (success : registry.resolve request isRoot = .ok resolved)
    (readable : TableRequest.parse request = .ok parsed)
    (kept : parsed.aliasName = none ∨
      parsed.aliasName = some (resolved.registry.table resolved.id).aliasName) :
    let table := resolved.registry.table resolved.id
    resolved.registry.locate (named parsed isRoot) = some (resolved.id, table) ∧
      (parsed.aliasName ≠ none → table.basename = parsed.basename) := by
  intro table
  obtain ⟨same, read, result⟩ := check_of_resolve registry request isRoot resolved success
  rw [readable] at read
  cases read
  rcases result with ⟨found, checked, unchanged⟩ | ⟨collisions, checked, last, grown⟩
  · have at_id : table = found := by
      have known := get?_of_check registry parsed isRoot resolved.id found checked
      rw [← unchanged] at known
      exact table_of_get? resolved.registry resolved.id found known
    rw [unchanged, at_id]
    apply named_of_reuse registry parsed isRoot resolved.id found checked
    rwa [← at_id]
  · have ⟨hit, name⟩ := named_newTable registry parsed isRoot collisions checked
    have known := (get?_of_locate _ _ _ _ hit).1
    rw [← grown, ← last] at hit known
    have at_id : table = registry.newTable parsed isRoot collisions :=
      table_of_get? resolved.registry resolved.id _ known
    rw [at_id]
    exact ⟨hit, fun _ => name⟩

theorem resolve_again (registry : Registry) (request : String) (isRoot : Bool) (resolved : Resolved)
    (success : registry.resolve request isRoot = .ok resolved) :
    resolved.registry.resolve request isRoot =
      .ok ⟨resolved.id, resolved.registry, .tableReused request (resolved.registry.table resolved.id).aliasName⟩ := by
  obtain ⟨read, readable, result⟩ := check_of_resolve registry request isRoot resolved success
  rcases result with ⟨table, checked, unchanged⟩ | ⟨collisions, checked, last, grown⟩
  · have known := get?_of_check registry read isRoot resolved.id table checked
    have again := resolve_of_reuse registry request read isRoot resolved.id table readable checked
    rw [← unchanged] at known again
    rwa [← table_of_get? resolved.registry resolved.id table known] at again
  · have ⟨hit, name⟩ := named_newTable registry read isRoot collisions checked
    rw [← grown, ← last] at hit
    have known := (get?_of_locate resolved.registry _ _ _ hit).1
    rw [← table_of_get? resolved.registry resolved.id _ known] at hit name
    exact resolve_of_named resolved.registry request read isRoot resolved.id _ readable hit fun _ => name

theorem resolve_behind (registry : Registry) (request : String) (isRoot : Bool) (resolved : Resolved)
    (success : registry.resolve request isRoot = .ok resolved) (parsed : TableRequest)
    (later : List (String × Bool)) (readable : TableRequest.parse request = .ok parsed)
    (kept : parsed.aliasName = none ∨
      parsed.aliasName = some (resolved.registry.table resolved.id).aliasName) :
    (resolved.registry.resolveAll later).resolve request isRoot =
      .ok ⟨resolved.id, resolved.registry.resolveAll later,
        .tableReused request (resolved.registry.table resolved.id).aliasName⟩ := by
  have ⟨hit, fits⟩ := named_of_resolve registry request parsed isRoot resolved success readable kept
  have grown := tables_resolveAll resolved.registry later
  have still := locate_of_prefix resolved.registry _ grown (named parsed isRoot) _ hit
  exact resolve_of_named _ request parsed isRoot resolved.id _ readable still fits

/-- A request that succeeded gives the same table and changes nothing when it is made again: at once, and after any
other requests too unless it got a table under another alias than the one it asks for. -/
theorem resolve_stable (registry : Registry) (request : String) (isRoot : Bool) (resolved : Resolved)
    (success : registry.resolve request isRoot = .ok resolved) :
    let reused := Event.tableReused request (resolved.registry.table resolved.id).aliasName
    resolved.registry.resolve request isRoot = .ok ⟨resolved.id, resolved.registry, reused⟩ ∧
      ∀ parsed later, TableRequest.parse request = .ok parsed →
        (parsed.aliasName = none ∨
          parsed.aliasName = some (resolved.registry.table resolved.id).aliasName) →
        (resolved.registry.resolveAll later).resolve request isRoot =
          .ok ⟨resolved.id, resolved.registry.resolveAll later, reused⟩ := by
  intro reused
  constructor
  · exact resolve_again registry request isRoot resolved success
  · intro parsed later readable kept
    exact resolve_behind registry request isRoot resolved success parsed later readable kept

/-- A table with a numbered alias keeps answering its name when another table is declared under that name. -/
theorem resolve_stable_numbered :
    resolve ⟨[⟨"users", "m", true, true⟩]⟩ "users" false =
        .ok ⟨1, ⟨[⟨"users", "m", true, true⟩, ⟨"users", "users1", false, false⟩]⟩,
          .tableRegistered "users" "users1" false 1⟩ ∧
      TableRequest.parse "users" = .ok ⟨"users", none⟩ ∧
      (resolveAll ⟨[⟨"users", "m", true, true⟩, ⟨"users", "users1", false, false⟩]⟩
          [("accounts AS users", false)]).resolve "users" false =
        .ok ⟨1, resolveAll ⟨[⟨"users", "m", true, true⟩, ⟨"users", "users1", false, false⟩]⟩
            [("accounts AS users", false)],
          .tableReused "users" "users1"⟩ := by
  have readable : TableRequest.parse "users" = .ok ⟨"users", none⟩ := by rfl
  refine ⟨by rfl, readable, ?_⟩
  exact (resolve_stable ⟨[⟨"users", "m", true, true⟩]⟩ "users" false _ (by rfl)).2 _ _ readable (.inl rfl)

end SqlSelect.Registry

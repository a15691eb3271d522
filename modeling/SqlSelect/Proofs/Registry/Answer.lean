import SqlSelect.Proofs.Registry.Holder
import SqlSelect.Proofs.Registry.Request

namespace SqlSelect.Registry

/-- The table is one that the request asks for. Only a root request may get a table under another alias than the one
it asks for, namely a root table that was there before it. -/
inductive Fits (registry : Registry) (isRoot : Bool) (id : Nat) (table : Table) : TableRequest → Prop where
  | bare (name : String) (named : table.basename = name ∨ table.aliasName = name) :
    Fits registry isRoot id table ⟨name, none⟩
  | aliased (aliasName : String)
    (labelled : table.aliasName = aliasName ∨
      isRoot = true ∧ table.isRoot = true ∧ registry.get? id = some table)
    (holder : ∀ other known, registry.get? other = some known → known.aliasName = aliasName → other = id) :
    Fits registry isRoot id table ⟨table.basename, some aliasName⟩

structure Adds (registry : Registry) (request : TableRequest) (isRoot : Bool) (table : Table) : Prop where
  basename : table.basename = request.basename
  isRoot : table.isRoot = isRoot
  asked : ∀ aliasName, request.aliasName = some aliasName → table.aliasName = aliasName
  first : request.aliasName = none → (∀ other ∈ registry.tables, other.basename ≠ request.basename) →
    table.aliasName = request.basename
  again : request.aliasName = none → (∃ other ∈ registry.tables, other.basename = request.basename) →
    ∃ counter, table.aliasName = numbered request.basename counter

theorem check_bare_reuse (registry : Registry) (basename : String) (isRoot : Bool) (id : Nat) (table : Table)
    (checked : registry.check ⟨basename, none⟩ isRoot = .ok (.reuse id table)) :
    table.basename = basename ∨ table.aliasName = basename := by
  simp only [check, resolveBare, Except.ok.injEq] at checked
  split at checked
  · rename_i found
    cases checked
    have answering := (get?_of_locate registry _ _ _ found).2
    simp only [answers, Bool.or_eq_true, Bool.and_eq_true, beq_iff_eq] at answering
    rcases answering with labelled | ⟨named, _⟩
    · exact .inr labelled
    · exact .inl named
  · cases checked

theorem check_aliased_reuse (registry : Registry) (basename aliasName : String) (isRoot : Bool) (id : Nat)
    (table : Table) (checked : registry.check ⟨basename, some aliasName⟩ isRoot = .ok (.reuse id table)) :
    table.basename = basename ∧
      (table.aliasName = aliasName ∨ aliasName ∉ registry.aliases ∧ isRoot = true ∧ table.isRoot = true) := by
  simp only [check, resolveAliased] at checked
  split at checked
  · rename_i found
    have labelled := beq_iff_eq.mp (get?_of_locate registry _ _ _ found).2
    split at checked
    · rename_i named
      cases checked
      exact ⟨beq_iff_eq.mp named, .inl labelled⟩
    · cases checked
  · rename_i absent
    have free := (registry.locate_alias_eq_none_iff aliasName).mp absent
    split at checked
    · cases checked
    · rename_i found
      have fitting := (get?_of_locate registry _ _ _ found).2
      simp only [Bool.and_eq_true, Bool.or_eq_true, beq_iff_eq, Bool.not_eq_true'] at fitting
      split at checked
      · rename_i root
        cases checked
        have asked : isRoot = true := by
          rcases fitting.2 with asked | plain
          · exact asked
          · rw [root] at plain
            cases plain
        exact ⟨fitting.1, .inr ⟨free, asked, root⟩⟩
      · cases checked

theorem fits_of_reuse (registry : Registry) (named : registry.WellNamed) (request : TableRequest) (isRoot : Bool)
    (id : Nat) (table : Table) (checked : registry.check request isRoot = .ok (.reuse id table)) :
    registry.Fits isRoot id table request := by
  have held := get?_of_check registry request isRoot id table checked
  obtain ⟨name, _ | aliasName⟩ := request
  · exact .bare name (check_bare_reuse registry name isRoot id table checked)
  · obtain ⟨rfl, labelled | ⟨free, asked, root⟩⟩ :=
      check_aliased_reuse registry name aliasName isRoot id table checked
    · refine .aliased aliasName (.inl labelled) ?_
      intro other known at_other same
      exact named.id_unique registry id other table known held at_other (same.trans labelled.symm)
    · refine .aliased aliasName (.inr ⟨asked, root, held⟩) ?_
      intro other known at_other same
      have unlike := (registry.not_mem_aliases_iff aliasName).mp free
      exact absurd same (unlike known (List.mem_of_getElem? at_other))

theorem adds_newTable (registry : Registry) (request : TableRequest) (isRoot : Bool) (collisions : Nat)
    (checked : registry.check request isRoot = .ok (.register collisions)) :
    registry.Adds request isRoot (registry.newTable request isRoot collisions) := by
  refine ⟨basename_newTable .., isRoot_newTable .., ?_, ?_, ?_⟩
  · rintro aliasName asked
    simp only [newTable, asked]
  · intro bare alone
    obtain ⟨name, _⟩ := request
    cases bare
    have none_before := (countName_eq_zero_iff registry name).mpr alone
    rw [← (check_bare_register registry name isRoot collisions checked).2] at none_before
    simp only [newTable, none_before, if_true]
  · rintro bare ⟨other, member, same⟩
    obtain ⟨name, _⟩ := request
    cases bare
    have counted := (check_bare_register registry name isRoot collisions checked).2
    have some_before : collisions ≠ 0 := by
      intro unused
      rw [unused] at counted
      exact (countName_eq_zero_iff registry name).mp counted.symm other member same
    exact ⟨_, by simp only [newTable, some_before, if_false]; rfl⟩

theorem fits_newTable (registry : Registry) (request : TableRequest) (isRoot : Bool) (collisions : Nat)
    (checked : registry.check request isRoot = .ok (.register collisions)) :
    registry.Fits isRoot registry.size (registry.newTable request isRoot collisions) request := by
  obtain ⟨name, _ | aliasName⟩ := request
  · exact .bare name (.inl (basename_newTable ..))
  · refine .aliased aliasName (.inl rfl) ?_
    intro other known at_other same
    have free := check_aliased_register registry name aliasName isRoot collisions checked
    have unlike := (registry.not_mem_aliases_iff aliasName).mp free
    exact absurd same (unlike known (List.mem_of_getElem? at_other))

/-- A request that succeeds gets a table that fits it. Either the table was there and nothing changes, or it is the one
table that is added, behind the others. -/
theorem resolve_as_asked (requests : List (String × Bool)) (request : String) (isRoot : Bool) (resolved : Resolved)
    (success : (({} : Registry).resolveAll requests).resolve request isRoot = .ok resolved) :
    let registry := ({} : Registry).resolveAll requests
    ∃ parsed table, TableRequest.Spells (Text.words request) parsed ∧
      resolved.registry.get? resolved.id = some table ∧ registry.Fits isRoot resolved.id table parsed ∧
      (resolved.registry = registry ∧ registry.get? resolved.id = some table ∨
        resolved.id = registry.size ∧ resolved.registry = ⟨registry.tables ++ [table]⟩ ∧
          registry.Adds parsed isRoot table) := by
  intro registry
  obtain ⟨parsed, readable, result⟩ := check_of_resolve registry request isRoot resolved success
  have spelled := (TableRequest.parse_eq_ok_iff request parsed).mp readable
  rcases result with ⟨table, checked, same⟩ | ⟨collisions, checked, last, grown⟩
  · have held := get?_of_check registry parsed isRoot resolved.id table checked
    have fits := fits_of_reuse registry (wellNamed_resolveAll requests) parsed isRoot resolved.id table checked
    refine ⟨parsed, table, spelled, ?_, fits, .inl ⟨same, held⟩⟩
    rwa [same]
  · have fits := fits_newTable registry parsed isRoot collisions checked
    have adds := adds_newTable registry parsed isRoot collisions checked
    refine ⟨parsed, _, spelled, ?_, ?_, .inr ⟨last, grown, adds⟩⟩
    · rw [grown, last]
      simp [get?, size]
    · rwa [last]

/-- The counters from the number of tables of the name on are tried until one is free. -/
theorem resolve_as_asked_numbered :
    let registry := ({} : Registry).resolveAll [("users m", true), ("accounts users1", false)]
    ∃ resolved, registry.resolve " users " false = .ok resolved ∧
      ∃ parsed table, TableRequest.Spells (Text.words " users ") parsed ∧
        resolved.registry.get? resolved.id = some table ∧ registry.Fits false resolved.id table parsed ∧
        (resolved.registry = registry ∧ registry.get? resolved.id = some table ∨
          resolved.id = registry.size ∧ resolved.registry = ⟨registry.tables ++ [table]⟩ ∧
            registry.Adds parsed false table) := by
  intro registry
  have success : registry.resolve " users " false =
      .ok ⟨2, ⟨registry.tables ++ [⟨"users", "users2", false, false⟩]⟩,
        .tableRegistered "users" "users2" false 1⟩ := by decide +kernel
  exact ⟨_, success, resolve_as_asked _ " users " false _ success⟩

end SqlSelect.Registry

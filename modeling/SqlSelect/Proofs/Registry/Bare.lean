import SqlSelect.Proofs.Registry.Holder

namespace SqlSelect

namespace TableRequest

def name? (request : String) : Option String :=
  match parse request with
  | .ok parsed => some parsed.basename
  | .error _ => none

def isBare (request : String) : Bool :=
  match parse request with
  | .ok parsed => parsed.aliasName.isNone
  | .error _ => true

theorem parse_of_isBare (request : String) (bare : isBare request = true) :
    (∃ name, name? request = some name ∧ parse request = .ok ⟨name, none⟩) ∨
      ∃ fault, parse request = .error fault := by
  unfold isBare at bare
  unfold name?
  cases readable : parse request with
  | error fault => exact .inr ⟨fault, rfl⟩
  | ok parsed =>
    obtain ⟨basename, _ | aliasName⟩ := parsed
    · exact .inl ⟨basename, rfl, rfl⟩
    · simp [readable] at bare

end TableRequest

def ColumnReference.request? (reference : String) : Option String :=
  match parse reference with
  | .ok parsed => parsed.table
  | .error _ => none

theorem ColumnReference.request?_of_readable (reference : String) (parsed : ColumnReference)
    (readable : parse reference = .ok parsed) : request? reference = parsed.table := by
  rw [request?, readable]

namespace Registry

theorem mem_aliases_iff (registry : Registry) (aliasName : String) :
    aliasName ∈ registry.aliases ↔ ∃ id table, registry.get? id = some table ∧ table.aliasName = aliasName := by
  constructor
  · intro member
    obtain ⟨table, inside, same⟩ := List.mem_map.mp member
    obtain ⟨id, held⟩ := List.mem_iff_getElem?.mp inside
    exact ⟨id, table, held, same⟩
  · rintro ⟨id, table, held, same⟩
    exact List.mem_map.mpr ⟨table, List.mem_of_getElem? held, same⟩

theorem resolve_of_unreadable (registry : Registry) (request : String) (isRoot : Bool) (fault : QueryError)
    (unreadable : TableRequest.parse request = .error fault) :
    registry.resolve request isRoot = .error fault := by
  simp only [resolve, unreadable, bind, Except.bind]

theorem WellNamed.resolve (registry : Registry) (named : registry.WellNamed) (request : String) (isRoot : Bool)
    (resolved : Resolved) (success : registry.resolve request isRoot = .ok resolved) :
    resolved.registry.WellNamed := by
  rcases resolve_cases registry request isRoot resolved success with
    ⟨same, _⟩ | ⟨parsed, collisions, readable, checked, _, tables⟩
  · rwa [same]
  · have grown : resolved.registry = ⟨registry.tables ++ [registry.newTable parsed isRoot collisions]⟩ := by
      rw [← tables]
    rw [grown]
    exact named.register registry request parsed isRoot collisions readable checked

structure Plain (registry : Registry) : Prop where
  named : registry.WellNamed
  bare : ∀ table ∈ registry.tables, table.aliasName = table.basename

theorem plain_empty : Plain {} := ⟨wellNamed_empty, by simp⟩

section Plain

variable (registry : Registry) (plain : registry.Plain)

include plain

/-- A root request may reuse any table of its name, but here such a table has that alias too. -/
theorem Plain.answers_iff (name : String) (isRoot : Bool) (table : Table) (member : table ∈ registry.tables) :
    answers name isRoot table = true ↔ table.aliasName = name := by
  rw [answers, plain.bare table member]
  simp only [Bool.or_eq_true, Bool.and_eq_true, beq_iff_eq]
  constructor
  · rintro (same | ⟨same, _⟩)
    · exact same
    · exact same
  · exact .inl

theorem Plain.resolve_known (request name : String) (isRoot : Bool)
    (readable : TableRequest.parse request = .ok ⟨name, none⟩) (id : Nat) (table : Table)
    (held : registry.get? id = some table) (same : table.aliasName = name) :
    registry.resolve request isRoot = .ok ⟨id, registry, .tableReused request name⟩ := by
  have first : registry.locate (answers name isRoot) = some (id, table) := by
    apply locate_of_first registry _ id table held
    · exact (plain.answers_iff registry name isRoot table (List.mem_of_getElem? held)).mpr same
    · intro other earlier below at_id
      by_contra answering
      rw [Bool.not_eq_false, plain.answers_iff registry name isRoot earlier (List.mem_of_getElem? at_id)] at answering
      have equal := plain.named.id_unique registry id other table earlier held at_id (answering.trans same.symm)
      omega
  have result := resolve_of_named registry request ⟨name, none⟩ isRoot id table readable first (by simp)
  rwa [same] at result

theorem Plain.resolve_new (request name : String) (isRoot : Bool)
    (readable : TableRequest.parse request = .ok ⟨name, none⟩) (absent : name ∉ registry.aliases) :
    registry.resolve request isRoot =
      .ok ⟨registry.size, ⟨registry.tables ++ [⟨name, name, isRoot, false⟩]⟩,
        .tableRegistered name name isRoot 0⟩ := by
  have other := (registry.not_mem_aliases_iff name).mp absent
  have silent : registry.locate (answers name isRoot) = none := by
    rw [locate_eq_none_iff]
    intro table member
    rw [Bool.eq_false_iff, ne_eq, plain.answers_iff registry name isRoot table member]
    exact other table member
  have unused : registry.countName name = 0 := by
    rw [countName, List.countP_eq_zero]
    intro table member
    rw [beq_iff_eq, ← plain.bare table member]
    exact other table member
  simp only [resolve, readable, bind, Except.bind, check, resolveBare, silent, unused, newTable, if_true]

end Plain

structure Gains (registry : Registry) (requests : List String) (later : Registry) : Prop where
  plain : later.Plain
  mem_aliases : ∀ aliasName, aliasName ∈ later.aliases ↔
    aliasName ∈ registry.aliases ∨ ∃ request ∈ requests, TableRequest.name? request = some aliasName

theorem Gains.refl (registry : Registry) (plain : registry.Plain) : registry.Gains [] registry :=
  ⟨plain, by simp⟩

theorem Gains.trans {first second third : Registry} {asked more : List String} (left : first.Gains asked second)
    (right : second.Gains more third) : first.Gains (asked ++ more) third := by
  refine ⟨right.plain, ?_⟩
  intro aliasName
  rw [right.mem_aliases, left.mem_aliases, or_assoc]
  apply or_congr Iff.rfl
  simp only [List.mem_append, or_and_right, exists_or]

theorem gains_resolve (registry : Registry) (plain : registry.Plain) (request : String) (isRoot : Bool)
    (resolved : Resolved) (success : registry.resolve request isRoot = .ok resolved)
    (bare : TableRequest.isBare request = true) : registry.Gains [request] resolved.registry := by
  have named := plain.named.resolve registry request isRoot resolved success
  rcases TableRequest.parse_of_isBare request bare with ⟨name, asked, readable⟩ | ⟨fault, unreadable⟩
  · by_cases known : name ∈ registry.aliases
    · obtain ⟨id, table, held, same⟩ := (registry.mem_aliases_iff name).mp known
      rw [plain.resolve_known registry request name isRoot readable id table held same] at success
      cases success
      refine ⟨plain, ?_⟩
      intro aliasName
      simp only [List.mem_singleton, exists_eq_left, asked, Option.some.injEq]
      constructor
      · exact .inl
      · rintro (member | rfl)
        · exact member
        · exact known
    · rw [plain.resolve_new registry request name isRoot readable known] at success
      cases success
      refine ⟨⟨named, ?_⟩, ?_⟩
      · intro table member
        rcases List.mem_append.mp member with member | member
        · exact plain.bare table member
        · rw [List.mem_singleton.mp member]
      · intro aliasName
        simp only [aliases, List.map_append, List.map_singleton, List.mem_append, List.mem_singleton, exists_eq_left,
          asked, Option.some.injEq]
        exact or_congr Iff.rfl eq_comm
  · rw [resolve_of_unreadable registry request isRoot fault unreadable] at success
    cases success

theorem gains_resolveColumn (registry : Registry) (plain : registry.Plain) (base : Option Nat) (reference : String)
    (found : ResolvedColumn) (success : registry.resolveColumn base reference = .ok found)
    (bare : ∀ request ∈ (ColumnReference.request? reference).toList, TableRequest.isBare request = true) :
    registry.Gains (ColumnReference.request? reference).toList found.registry := by
  rcases resolveColumn_cases registry base reference found success with
    ⟨id, name, readable, _, rfl⟩ | ⟨request, name, resolved, readable, result, rfl⟩
  · rw [ColumnReference.request?_of_readable reference _ readable]
    exact Gains.refl registry plain
  · rw [ColumnReference.request?_of_readable reference _ readable] at bare ⊢
    exact gains_resolve registry plain request false resolved result (bare request List.mem_cons_self)

theorem grown_of_resolveColumn (registry : Registry) (base : Option Nat) (reference : String) (found : ResolvedColumn)
    (success : registry.resolveColumn base reference = .ok found) (later : Registry)
    (grown : ∃ requests, later = found.registry.resolveAll requests) :
    ∃ requests, later = registry.resolveAll requests := by
  obtain ⟨asked, first⟩ := registry_of_resolveColumn registry base reference found success
  obtain ⟨more, rest⟩ := grown
  exact ⟨asked ++ more, by rw [rest, first, resolveAll_append]⟩

/-- A request without an alias gives the same table whatever is requested after it. -/
theorem resolve_later (registry : Registry) (request : String) (isRoot : Bool) (resolved : Resolved)
    (success : registry.resolve request isRoot = .ok resolved) (bare : TableRequest.isBare request = true)
    (later : Registry) (grown : ∃ requests, later = resolved.registry.resolveAll requests) :
    ∃ event, later.resolve request isRoot = .ok ⟨resolved.id, later, event⟩ := by
  obtain ⟨requests, rfl⟩ := grown
  rcases TableRequest.parse_of_isBare request bare with ⟨name, _, readable⟩ | ⟨fault, unreadable⟩
  · exact ⟨_, resolve_behind registry request isRoot resolved success ⟨name, none⟩ requests readable (.inl rfl)⟩
  · rw [resolve_of_unreadable registry request isRoot fault unreadable] at success
    cases success

theorem resolveColumn_later (registry : Registry) (base : Option Nat) (reference : String) (found : ResolvedColumn)
    (success : registry.resolveColumn base reference = .ok found)
    (bare : ∀ request ∈ (ColumnReference.request? reference).toList, TableRequest.isBare request = true)
    (later : Registry) (grown : ∃ requests, later = found.registry.resolveAll requests) (start : Option Nat)
    (set : ∀ id, base = some id → start = some id) :
    ∃ events, later.resolveColumn start reference = .ok ⟨found.column, later, events⟩ := by
  rcases resolveColumn_cases registry base reference found success with
    ⟨id, name, readable, fixed, rfl⟩ | ⟨request, name, resolved, readable, result, rfl⟩
  · rw [resolveColumn_of_unqualified later start reference name readable, set id fixed]
    exact ⟨[], rfl⟩
  · rw [ColumnReference.request?_of_readable reference _ readable] at bare
    have plain := bare request List.mem_cons_self
    obtain ⟨event, again⟩ := resolve_later registry request false resolved result plain later grown
    rw [resolveColumn_of_qualified later start reference request name readable, again]
    exact ⟨[event], rfl⟩

end Registry
end SqlSelect

import SqlSelect.Proofs.Registry.Holder
import SqlSelect.Proofs.Registry.Request
import Mathlib.Data.List.Nodup

namespace SqlSelect.Registry

inductive Refuses (registry : Registry) (basename aliasName : String) : Bool → Prop where
  | taken (isRoot : Bool) (table : Table) (member : table ∈ registry.tables) (holder : table.aliasName = aliasName)
      (other : table.basename ≠ basename) : Refuses registry basename aliasName isRoot
  -- one more table of the name could not be told apart from one that is no root
  | beside (free : aliasName ∉ registry.aliases) (table : Table) (member : table ∈ registry.tables)
      (named : table.basename = basename) (plain : table.isRoot = false) : Refuses registry basename aliasName false
  -- a root request gets the root table of its name only if that is the first one
  | behind (free : aliasName ∉ registry.aliases) (table : Table)
      (first : registry.tables.find? (·.basename == basename) = some table) (plain : table.isRoot = false) :
      Refuses registry basename aliasName true

theorem find?_eq_locateFrom (p : Table → Bool) (start : Nat) (tables : List Table) :
    tables.find? p = (locateFrom p start tables).map (·.2) := by
  induction tables generalizing start with
  | nil => rfl
  | cons table tables ih =>
    rw [List.find?_cons, locateFrom]
    by_cases holds : p table = true
    · simp [holds]
    · simp [holds, ih (start + 1)]

section

variable (registry : Registry)

theorem find?_eq_locate (p : Table → Bool) : registry.tables.find? p = (registry.locate p).map (·.2) :=
  find?_eq_locateFrom p 0 registry.tables

variable (basename aliasName : String) (isRoot : Bool)

theorem refuses_iff_of_held (named : registry.WellNamed) (id : Nat) (table : Table)
    (hit : registry.locate (·.aliasName == aliasName) = some (id, table)) :
    registry.Refuses basename aliasName isRoot ↔ table.basename ≠ basename := by
  have ⟨held, labelled⟩ := get?_of_locate registry _ id table hit
  have member := List.mem_of_getElem? held
  have taken : aliasName ∈ registry.aliases := List.mem_map.mpr ⟨table, member, beq_iff_eq.mp labelled⟩
  constructor
  · intro refused
    cases refused with
    | taken _ holder inside same other =>
      have one := List.inj_on_of_nodup_map named.distinct member inside ((beq_iff_eq.mp labelled).trans same.symm)
      rwa [one]
    | beside free => exact absurd taken free
    | behind free => exact absurd taken free
  · exact .taken isRoot table member (beq_iff_eq.mp labelled)

theorem refuses_iff_of_free (free : aliasName ∉ registry.aliases) :
    registry.Refuses basename aliasName isRoot ↔
      ∃ table, registry.tables.find? (fun table => table.basename == basename && (isRoot || !table.isRoot)) =
        some table ∧ table.isRoot = false := by
  constructor
  · intro refused
    cases refused with
    | taken _ table member holder => exact absurd (List.mem_map.mpr ⟨table, member, holder⟩) free
    | beside _ table member same plain =>
      have hit : (registry.tables.find? fun table => table.basename == basename && (false || !table.isRoot)).isSome := by
        rw [List.find?_isSome]
        exact ⟨table, member, by simp [same, plain]⟩
      obtain ⟨first, found⟩ := Option.isSome_iff_exists.mp hit
      have fitting := List.find?_some found
      exact ⟨first, found, by simp_all⟩
    | behind _ table first plain => exact ⟨table, by simpa using first, plain⟩
  · rintro ⟨table, found, plain⟩
    have fitting := List.find?_some found
    cases isRoot with
    | false => exact .beside free table (List.mem_of_find?_eq_some found) (by simp_all) plain
    | true => exact .behind free table (by simpa using found) plain

theorem resolveAliased_eq_error_iff (named : registry.WellNamed) (fault : QueryError) :
    registry.resolveAliased basename aliasName isRoot = .error fault ↔
      fault = .unresolvableTable basename aliasName ∧ registry.Refuses basename aliasName isRoot := by
  cases hit : registry.locate (·.aliasName == aliasName) with
  | some found =>
    obtain ⟨id, table⟩ := found
    rw [registry.refuses_iff_of_held basename aliasName isRoot named id table hit, resolveAliased, hit]
    by_cases same : table.basename = basename
    · simp [same]
    · simp [same, @eq_comm _ fault]
  | none =>
    have free := (registry.locate_alias_eq_none_iff aliasName).mp hit
    rw [registry.refuses_iff_of_free basename aliasName isRoot free, find?_eq_locate, resolveAliased, hit]
    cases registry.locate fun table => table.basename == basename && (isRoot || !table.isRoot) with
    | none => simp
    | some found =>
      obtain ⟨id, table⟩ := found
      by_cases root : table.isRoot = true
      · simp [root]
      · simp [root, @eq_comm _ fault]

end

theorem resolve_eq_error_iff (registry : Registry) (request : String) (isRoot : Bool) (parsed : TableRequest)
    (readable : TableRequest.parse request = .ok parsed) (fault : QueryError) :
    registry.resolve request isRoot = .error fault ↔ registry.check parsed isRoot = .error fault := by
  cases checked : registry.check parsed isRoot with
  | error other => simp [resolve, readable, checked, bind, Except.bind]
  | ok resolution => cases resolution <;> simp [resolve, readable, checked, bind, Except.bind]

/-- The two causes for which a request fails. -/
theorem fault_of_resolve (registry : Registry) (request : String) (isRoot : Bool) (fault : QueryError)
    (failed : registry.resolve request isRoot = .error fault) :
    fault = .invalidReference (.malformedTable request) ∨
      ∃ basename aliasName, fault = .unresolvableTable basename aliasName := by
  cases readable : TableRequest.parse request with
  | error cause =>
    left
    simp only [resolve, readable, bind, Except.bind, Except.error.injEq] at failed
    subst failed
    unfold TableRequest.parse at readable
    split at readable
    · cases readable
    · exact (Except.error.inj readable).symm
  | ok parsed =>
    right
    rw [resolve_eq_error_iff registry request isRoot parsed readable] at failed
    obtain ⟨basename, _ | aliasName⟩ := parsed
    · cases failed
    · refine ⟨basename, aliasName, ?_⟩
      simp only [check, resolveAliased] at failed
      split at failed
      · split at failed
        · cases failed
        · exact (Except.error.inj failed).symm
      · split at failed
        · cases failed
        · split at failed
          · cases failed
          · exact (Except.error.inj failed).symm

/-- A well-formed request fails exactly if it has an alias and the tables leave no answer to it. -/
theorem resolve_error_iff (requests : List (String × Bool)) (request : String) (isRoot : Bool) (parsed : TableRequest)
    (spelled : TableRequest.Spells (Text.words request) parsed) :
    let registry := ({} : Registry).resolveAll requests
    (parsed.aliasName = none → ∃ resolved, registry.resolve request isRoot = .ok resolved) ∧
      ∀ aliasName, parsed.aliasName = some aliasName →
        (registry.Refuses parsed.basename aliasName isRoot → registry.attempt request isRoot = registry) ∧
          ∀ fault, registry.resolve request isRoot = .error fault ↔
            fault = .unresolvableTable parsed.basename aliasName ∧
              registry.Refuses parsed.basename aliasName isRoot := by
  intro registry
  have readable := (TableRequest.parse_eq_ok_iff request parsed).mpr spelled
  have failure := registry.resolve_eq_error_iff request isRoot parsed readable
  constructor
  · intro bare
    cases result : registry.resolve request isRoot with
    | ok resolved => exact ⟨resolved, rfl⟩
    | error fault =>
      have refused := (failure fault).mp result
      simp only [check, bare] at refused
      cases refused
  · intro aliasName asked
    have refusal := registry.resolveAliased_eq_error_iff parsed.basename aliasName isRoot
      (wellNamed_resolveAll requests)
    simp only [check, asked] at failure
    refine ⟨?_, fun fault => (failure fault).trans (refusal fault)⟩
    intro refused
    have failed := (failure _).mpr ((refusal _).mpr ⟨rfl, refused⟩)
    exact registry.attempt_of_error request isRoot _ failed

/-- The root table was registered behind another of its name, so a root request for that name looks at the other. -/
theorem resolve_error_iff_behind :
    let registry := ({} : Registry).resolveAll [("users AS m", false), ("users", true)]
    TableRequest.Spells (Text.words "users u") ⟨"users", some "u"⟩ ∧ registry.Refuses "users" "u" true ∧
      registry.resolve "users u" true = .error (.unresolvableTable "users" "u") ∧
      registry.attempt "users u" true = registry := by
  intro registry
  have spelled : TableRequest.Spells (Text.words "users u") ⟨"users", some "u"⟩ := .behind "users" "u" (by decide)
  have refused : registry.Refuses "users" "u" true :=
    .behind (by decide +kernel) ⟨"users", "m", false, true⟩ (by decide +kernel) rfl
  obtain ⟨unchanged, failure⟩ := (resolve_error_iff _ "users u" true _ spelled).2 "u" rfl
  exact ⟨spelled, refused, (failure _).mpr ⟨rfl, refused⟩, unchanged refused⟩

end SqlSelect.Registry

import SqlSelect.Proofs.Registry.Numbering
import SqlSelect.Proofs.Registry.Run
import SqlSelect.Proofs.Text.Word

namespace SqlSelect

namespace Registry

theorem check_bare_register (registry : Registry) (basename : String) (isRoot : Bool) (collisions : Nat)
    (checked : registry.check ⟨basename, none⟩ isRoot = .ok (.register collisions)) :
    (∀ table ∈ registry.tables, answers basename isRoot table = false) ∧
      collisions = registry.countName basename := by
  simp only [check, resolveBare, Except.ok.injEq] at checked
  split at checked
  · cases checked
  · rename_i absent
    cases checked
    exact ⟨(locate_eq_none_iff registry _).mp absent, rfl⟩

theorem countName_eq_zero_iff (registry : Registry) (basename : String) :
    registry.countName basename = 0 ↔ ∀ other ∈ registry.tables, other.basename ≠ basename := by
  simp [countName, List.countP_eq_zero]

theorem check_aliased_register (registry : Registry) (basename aliasName : String) (isRoot : Bool)
    (collisions : Nat)
    (checked : registry.check ⟨basename, some aliasName⟩ isRoot = .ok (.register collisions)) :
    aliasName ∉ registry.aliases := by
  simp only [check, resolveAliased] at checked
  split at checked
  · split at checked <;> cases checked
  · rename_i absent
    exact (registry.locate_alias_eq_none_iff aliasName).mp absent

theorem not_mem_aliases_of_answers (registry : Registry) (basename : String) (isRoot : Bool)
    (silent : ∀ table ∈ registry.tables, answers basename isRoot table = false) :
    basename ∉ registry.aliases := by
  rw [not_mem_aliases_iff]
  intro table member same
  have quiet := silent table member
  simp [answers, same] at quiet

section NewTable

variable (registry : Registry) (request : TableRequest) (isRoot : Bool) (collisions : Nat)

theorem basename_newTable : (registry.newTable request isRoot collisions).basename = request.basename := by
  obtain ⟨basename, _ | aliasName⟩ := request
  · rfl
  · rfl

theorem isRoot_newTable : (registry.newTable request isRoot collisions).isRoot = isRoot := by
  obtain ⟨basename, _ | aliasName⟩ := request
  · rfl
  · rfl

theorem isDeclared_newTable :
    (registry.newTable request isRoot collisions).isDeclared = request.aliasName.isSome := by
  obtain ⟨basename, _ | aliasName⟩ := request
  · rfl
  · rfl

end NewTable

theorem newTable_fresh (registry : Registry) (request : TableRequest) (isRoot : Bool) (collisions : Nat)
    (checked : registry.check request isRoot = .ok (.register collisions)) :
    (registry.newTable request isRoot collisions).aliasName ∉ registry.aliases := by
  obtain ⟨basename, _ | aliasName⟩ := request
  -- a bare request gets its name if no table has it, and a numbered alias otherwise; one with an alias gets that
  · have silent := (check_bare_register registry basename isRoot collisions checked).1
    by_cases first : collisions = 0
    · simp only [newTable, first, if_true]
      exact not_mem_aliases_of_answers registry basename isRoot silent
    · simp only [newTable, first, if_false]
      rw [← findByAlias_eq_none_iff]
      exact findByAlias_disambiguate registry basename collisions
  · exact check_aliased_register registry basename aliasName isRoot collisions checked

theorem isWord_numbered (basename : String) (counter : Nat) (word : Text.IsWord basename) :
    Text.IsWord (numbered basename counter) :=
  word.append basename (toString counter) (Text.not_blank_of_mem_toString counter)

theorem newTable_isWord (registry : Registry) (request : TableRequest) (isRoot : Bool) (collisions : Nat)
    (name : Text.IsWord request.basename)
    (asked : ∀ aliasName, request.aliasName = some aliasName → Text.IsWord aliasName) :
    Text.IsWord (registry.newTable request isRoot collisions).basename ∧
      Text.IsWord (registry.newTable request isRoot collisions).aliasName := by
  obtain ⟨basename, _ | aliasName⟩ := request
  · by_cases first : collisions = 0
    · simp only [newTable, first, if_true]
      exact ⟨name, name⟩
    · simp only [newTable, first, if_false]
      exact ⟨name, isWord_numbered basename _ name⟩
  · exact ⟨name, asked aliasName rfl⟩

structure WellNamed (registry : Registry) : Prop where
  distinct : registry.aliases.Nodup
  words : ∀ table ∈ registry.tables, Text.IsWord table.basename ∧ Text.IsWord table.aliasName

theorem wellNamed_empty : WellNamed {} := ⟨List.nodup_nil, by simp⟩

theorem WellNamed.register (registry : Registry) (named : registry.WellNamed) (request : String)
    (parsed : TableRequest) (isRoot : Bool) (collisions : Nat)
    (readable : TableRequest.parse request = .ok parsed)
    (checked : registry.check parsed isRoot = .ok (.register collisions)) :
    WellNamed ⟨registry.tables ++ [registry.newTable parsed isRoot collisions]⟩ := by
  have fresh := newTable_fresh registry parsed isRoot collisions checked
  have asked := TableRequest.isWord_of_parse request parsed readable
  constructor
  · rw [aliases, List.map_append, List.map_singleton, List.nodup_append]
    refine ⟨named.distinct, by simp, ?_⟩
    intro left member right last same
    rw [List.mem_singleton] at last
    rw [← last, ← same] at fresh
    exact fresh member
  · intro table member
    rcases List.mem_append.mp member with member | member
    · exact named.words table member
    · rw [List.mem_singleton.mp member]
      exact newTable_isWord registry parsed isRoot collisions asked.1 asked.2

theorem wellNamed_resolveAll (requests : List (String × Bool)) :
    (({} : Registry).resolveAll requests).WellNamed := by
  apply resolveAll_induction WellNamed
  · exact wellNamed_empty
  · intro registry request parsed isRoot collisions named readable checked
    exact named.register registry request parsed isRoot collisions readable checked

end Registry
end SqlSelect

import SqlSelect.Proofs.Registry.ColumnReference
import SqlSelect.Proofs.Registry.Run

namespace SqlSelect

namespace Registry

section Reference

variable (registry : Registry) (base : Option Nat) (reference : String)

theorem resolveColumn_of_unreadable (fault : QueryError)
    (unreadable : ColumnReference.parse reference = .error fault) :
    registry.resolveColumn base reference = .error fault := by
  simp only [resolveColumn, unreadable, bind, Except.bind]

theorem resolveColumn_of_unqualified (name : String)
    (readable : ColumnReference.parse reference = .ok ⟨none, name⟩) :
    registry.resolveColumn base reference =
      match base with
      | some id => .ok ⟨⟨name, none, id⟩, registry, []⟩
      | none => .error (.missingBaseTable reference) := by
  cases base with
  | none => simp only [resolveColumn, readable, bind, Except.bind]
  | some id => simp only [resolveColumn, readable, bind, Except.bind]

theorem resolveColumn_of_qualified (request name : String)
    (readable : ColumnReference.parse reference = .ok ⟨some request, name⟩) :
    registry.resolveColumn base reference =
      (registry.resolve request false).map fun resolved =>
        ⟨⟨name, none, resolved.id⟩, resolved.registry, [resolved.event]⟩ := by
  simp only [resolveColumn, readable, bind, Except.bind]
  cases registry.resolve request false with
  | error fault => rfl
  | ok resolved => rfl

theorem resolveColumn_cases (found : ResolvedColumn) (success : registry.resolveColumn base reference = .ok found) :
    (∃ id name, ColumnReference.parse reference = .ok ⟨none, name⟩ ∧ base = some id ∧
        found = ⟨⟨name, none, id⟩, registry, []⟩) ∨
      ∃ request name resolved, ColumnReference.parse reference = .ok ⟨some request, name⟩ ∧
        registry.resolve request false = .ok resolved ∧
        found = ⟨⟨name, none, resolved.id⟩, resolved.registry, [resolved.event]⟩ := by
  cases readable : ColumnReference.parse reference with
  | error fault =>
    rw [resolveColumn_of_unreadable registry base reference fault readable] at success
    cases success
  | ok parsed =>
    obtain ⟨_ | request, name⟩ := parsed
    · rw [resolveColumn_of_unqualified registry base reference name readable] at success
      cases base with
      | none => cases success
      | some id =>
        cases success
        exact .inl ⟨id, name, rfl, rfl, rfl⟩
    · rw [resolveColumn_of_qualified registry base reference request name readable] at success
      cases result : registry.resolve request false with
      | error fault =>
        rw [result] at success
        cases success
      | ok resolved =>
        rw [result] at success
        cases success
        exact .inr ⟨request, name, resolved, rfl, result, rfl⟩

end Reference

theorem tables_of_resolveColumn (registry : Registry) (base : Option Nat) (reference : String)
    (found : ResolvedColumn) (success : registry.resolveColumn base reference = .ok found) :
    registry.tables <+: found.registry.tables := by
  rcases resolveColumn_cases registry base reference found success with
    ⟨_, _, _, _, rfl⟩ | ⟨request, _, resolved, _, result, rfl⟩
  · exact List.prefix_rfl
  · exact tables_of_resolve registry request false resolved result

theorem owner_of_resolveColumn (registry : Registry) (base : Option Nat) (reference : String)
    (found : ResolvedColumn) (success : registry.resolveColumn base reference = .ok found)
    (known : ∀ id, base = some id → id < registry.size) :
    found.column.table < found.registry.size := by
  rcases resolveColumn_cases registry base reference found success with
    ⟨id, _, _, set, rfl⟩ | ⟨request, _, resolved, _, result, rfl⟩
  · exact known id set
  · exact resolve_lt_size registry request false resolved result

theorem registry_of_resolveColumn (registry : Registry) (base : Option Nat) (reference : String)
    (found : ResolvedColumn) (success : registry.resolveColumn base reference = .ok found) :
    ∃ requests, found.registry = registry.resolveAll requests := by
  rcases resolveColumn_cases registry base reference found success with
    ⟨_, _, _, _, rfl⟩ | ⟨request, _, resolved, _, result, rfl⟩
  · exact ⟨[], rfl⟩
  · refine ⟨[(request, false)], ?_⟩
    rw [resolveAll_cons, resolveAll_nil, attempt_of_ok registry request false resolved result]

end Registry
end SqlSelect

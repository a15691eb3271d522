import SqlSelect.Proofs.Registry.Multiplicity

namespace SqlSelect.Registry

def before (registry : Registry) (id : Nat) : Registry := ⟨registry.tables.take id⟩

theorem before_of_lt (registry : Registry) (table : Table) (id : Nat) (known : id < registry.size) :
    before ⟨registry.tables ++ [table]⟩ id = registry.before id := by
  rw [before, List.take_append_of_le_length (Nat.le_of_lt known), before]

theorem before_size (registry : Registry) (added : List Table) :
    before ⟨registry.tables ++ added⟩ registry.size = registry := by
  rw [before, size, List.take_left]

def Registers (registry : Registry) (table : Table) : Prop :=
  ∃ request isRoot collisions, registry.check request isRoot = .ok (.register collisions) ∧
    table = registry.newTable request isRoot collisions

theorem registers_resolveAll (requests : List (String × Bool)) (id : Nat) (table : Table)
    (held : (({} : Registry).resolveAll requests).get? id = some table) :
    ((({} : Registry).resolveAll requests).before id).Registers table := by
  revert id table
  apply resolveAll_induction fun registry =>
    ∀ id table, registry.get? id = some table → (registry.before id).Registers table
  · intro id table held
    cases held
  · intro registry _ request isRoot collisions registered _ checked id table held
    have inside : id < registry.size + 1 := by
      have bound := (List.getElem?_eq_some_iff.mp held).1
      rwa [List.length_append] at bound
    rcases Nat.lt_or_eq_of_le (Nat.le_of_lt_succ inside) with known | rfl
    · rw [before_of_lt registry _ id known]
      rw [get?, List.getElem?_append_left known] at held
      exact registered id table held
    · rw [before_size]
      rw [get?, size, List.getElem?_concat_length, Option.some.injEq] at held
      exact ⟨request, isRoot, collisions, checked, held.symm⟩

theorem numbered_ne (basename : String) (counter : Nat) : numbered basename counter ≠ basename := by
  intro same
  have texts := congrArg String.toList same
  rw [numbered, String.toList_append, List.append_right_eq_self, Nat.toString_eq_ofList_toDigits,
    String.toList_ofList] at texts
  exact Nat.toDigits_ne_nil texts

section Root

variable (registry : Registry) (root : Table) (registers : registry.Registers root) (marked : root.isRoot = true)

include registers marked

/-- What has the name of a root table before it was declared under an alias by a request that is no root. -/
theorem Registers.others_declared (other : Table) (member : other ∈ registry.tables)
    (same : other.basename = root.basename) : other.isDeclared = true ∧ other.isRoot = false := by
  obtain ⟨request, isRoot, collisions, checked, rfl⟩ := registers
  rw [isRoot_newTable] at marked
  rw [basename_newTable] at same
  rcases others_of_register registry request isRoot collisions checked other member same with
    ⟨_, declared, apart⟩ | ⟨_, plain, _⟩
  · refine ⟨declared, Bool.eq_false_iff.mpr fun also => ?_⟩
    rw [apart also] at marked
    cases marked
  · rw [plain] at marked
    cases marked

theorem Registers.alone_iff :
    (∀ other ∈ registry.tables, other.basename ≠ root.basename) ↔
      root.isDeclared = true ∨ root.aliasName = root.basename := by
  obtain ⟨⟨name, asked⟩, isRoot, collisions, checked, rfl⟩ := registers
  rw [isRoot_newTable] at marked
  rw [basename_newTable, isDeclared_newTable]
  cases asked with
  | some aliasName =>
    refine iff_of_true ?_ (.inl rfl)
    intro other member same
    rcases others_of_register registry _ isRoot collisions checked other member same with
      ⟨bare, _⟩ | ⟨_, plain, _⟩
    · cases bare
    · rw [plain] at marked
      cases marked
  | none =>
    rw [← countName_eq_zero_iff, ← (check_bare_register registry name isRoot collisions checked).2]
    by_cases first : collisions = 0
    · simp [newTable, first]
    · simp [newTable, first, disambiguate, numbered_ne]

end Root

end SqlSelect.Registry

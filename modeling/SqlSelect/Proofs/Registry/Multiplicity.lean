import SqlSelect.Proofs.Registry.Alias

namespace SqlSelect

def Table.isUndeclared (table : Table) : Bool := !table.isDeclared

/-- The table was declared under an alias and is no root: one more table beside the root table of its name. -/
def Table.isBeside (table : Table) : Bool := !table.isRoot && table.isDeclared

namespace Registry

def countOf (registry : Registry) (kind : Table → Bool) (basename : String) : Nat :=
  registry.tables.countP fun table => table.basename == basename && kind table

theorem others_of_register (registry : Registry) (request : TableRequest) (isRoot : Bool) (collisions : Nat)
    (checked : registry.check request isRoot = .ok (.register collisions)) (other : Table)
    (member : other ∈ registry.tables) (same : other.basename = request.basename) :
    (request.aliasName = none ∧ other.isDeclared = true ∧ (other.isRoot = true → isRoot = false)) ∨
      (request.aliasName.isSome = true ∧ isRoot = false ∧ other.isRoot = true) := by
  obtain ⟨basename, _ | aliasName⟩ := request
  · have silent := (check_bare_register registry basename isRoot collisions checked).1 other member
    have declared : other.isDeclared = true ∧ (other.isRoot = true → isRoot = false) := by
      simpa [answers, show other.basename = basename from same] using (Bool.or_eq_false_iff.mp silent).2
    exact .inl ⟨rfl, declared⟩
  · simp only [check, resolveAliased] at checked
    split at checked
    · split at checked <;> cases checked
    · split at checked
      · rename_i absent
        have unlike := (locate_eq_none_iff registry _).mp absent other member
        simp only [show other.basename = basename from same, BEq.rfl, Bool.true_and, Bool.or_eq_false_iff,
          Bool.not_eq_false'] at unlike
        exact .inr ⟨rfl, unlike⟩
      · split at checked <;> cases checked

def Exclusive (kind : Table → Bool) : Prop :=
  ∀ (registry : Registry) (request : TableRequest) (isRoot : Bool) (collisions : Nat),
    registry.check request isRoot = .ok (.register collisions) →
    kind (registry.newTable request isRoot collisions) = true →
    ∀ other ∈ registry.tables, other.basename = request.basename → kind other = false

theorem exclusive_root : Exclusive Table.isRoot := by
  intro registry request isRoot collisions checked root other member same
  rw [isRoot_newTable] at root
  rcases others_of_register registry request isRoot collisions checked other member same with
    ⟨_, _, apart⟩ | ⟨_, joined, _⟩
  · rw [root] at apart
    exact Bool.eq_false_iff.mpr fun also => Bool.noConfusion (apart also)
  · rw [root] at joined
    cases joined

theorem exclusive_undeclared : Exclusive Table.isUndeclared := by
  intro registry request isRoot collisions checked undeclared other member same
  rw [Table.isUndeclared, isDeclared_newTable] at undeclared
  rcases others_of_register registry request isRoot collisions checked other member same with
    ⟨_, declared, _⟩ | ⟨asked, _, _⟩
  · rw [Table.isUndeclared, declared, Bool.not_true]
  · rw [asked] at undeclared
    cases undeclared

theorem exclusive_beside : Exclusive Table.isBeside := by
  intro registry request isRoot collisions checked beside other member same
  rw [Table.isBeside, isDeclared_newTable, Bool.and_eq_true] at beside
  rcases others_of_register registry request isRoot collisions checked other member same with
    ⟨bare, _, _⟩ | ⟨_, _, root⟩
  · rw [bare] at beside
    cases beside.2
  · rw [Table.isBeside, root, Bool.not_true, Bool.false_and]

theorem countOf_register (registry : Registry) (kind : Table → Bool) (table : Table) (basename : String)
    (few : registry.countOf kind basename ≤ 1)
    (alone : kind table = true → ∀ other ∈ registry.tables, other.basename = table.basename → kind other = false) :
    countOf ⟨registry.tables ++ [table]⟩ kind basename ≤ 1 := by
  rw [countOf, List.countP_append, List.countP_singleton]
  split
  · -- the new table counts, so it is the first of its kind and its name
    rename_i counted
    rw [Bool.and_eq_true, beq_iff_eq] at counted
    have none_before : registry.tables.countP (fun other => other.basename == basename && kind other) = 0 := by
      rw [List.countP_eq_zero]
      intro other member both
      rw [Bool.and_eq_true, beq_iff_eq] at both
      rw [alone counted.2 other member (both.1.trans counted.1.symm)] at both
      cases both.2
    omega
  · exact few

theorem Exclusive.countOf_le_one {kind : Table → Bool} (exclusive : Exclusive kind) (basename : String)
    (requests : List (String × Bool)) : (({} : Registry).resolveAll requests).countOf kind basename ≤ 1 := by
  apply resolveAll_induction (countOf · kind basename ≤ 1)
  · exact Nat.zero_le 1
  · intro registry request parsed isRoot collisions few _ checked
    apply countOf_register registry kind _ basename few
    rw [basename_newTable]
    exact exclusive registry parsed isRoot collisions checked

/-- Every table is of one of the three kinds. -/
theorem isRoot_or_isUndeclared_or_isBeside (table : Table) :
    table.isRoot = true ∨ table.isUndeclared = true ∨ table.isBeside = true := by
  unfold Table.isUndeclared Table.isBeside
  cases table.isRoot with
  | true => exact .inl rfl
  | false =>
    cases table.isDeclared with
    | true => exact .inr (.inr rfl)
    | false => exact .inr (.inl rfl)

theorem countName_le (registry : Registry) (basename : String) :
    registry.countName basename ≤ registry.countOf Table.isRoot basename +
      registry.countOf Table.isUndeclared basename + registry.countOf Table.isBeside basename := by
  unfold countName countOf
  induction registry.tables with
  | nil => exact Nat.zero_le _
  | cons table tables ih =>
    simp only [List.countP_cons]
    by_cases same : table.basename = basename
    · rcases isRoot_or_isUndeclared_or_isBeside table with kind | kind | kind
      all_goals
        simp only [same, kind, BEq.rfl, Bool.and_self, if_true]
        omega
    · simp only [beq_eq_false_iff_ne.mpr same, Bool.false_and, Bool.false_eq_true, if_false]
      exact ih

/-- After any requests, failed ones included, a name has at most one root table, at most one table whose alias was not
declared and at most one declared table that is no root, so it has three tables at most. -/
theorem multiplicity_of_name (requests : List (String × Bool)) (basename : String) :
    let registry := ({} : Registry).resolveAll requests
    registry.countOf Table.isRoot basename ≤ 1 ∧ registry.countOf Table.isUndeclared basename ≤ 1 ∧
      registry.countOf Table.isBeside basename ≤ 1 ∧ registry.countName basename ≤ 3 := by
  intro registry
  have root := exclusive_root.countOf_le_one basename requests
  have undeclared := exclusive_undeclared.countOf_le_one basename requests
  have beside := exclusive_beside.countOf_le_one basename requests
  have total := registry.countName_le basename
  refine ⟨root, undeclared, beside, Nat.le_trans total ?_⟩
  exact Nat.add_le_add (Nat.add_le_add root undeclared) beside

/-- The bound is reached: the root table, one declared beside it, and one with a numbered alias. -/
example : (({} : Registry).resolveAll
    [("users m", true), ("users n", false), ("users", false)]).countName "users" = 3 := by
  decide

end Registry
end SqlSelect

import SqlSelect.Statement
import SqlSelect.Proofs.Condition.Comparisons

namespace SqlSelect

structure Label (ω : Type) where
  owner : ω
  name : String

inductive Filter (ω : Type) where
  | comparison (column : Label ω) (operator : Operator) (value : Json)
  | group (first : Filter ω) (others : List (Chain × Filter ω))

structure TableName where
  basename : String
  aliasName : String

structure JointOutline (ω : Type) where
  table : TableName
  left : Label ω
  right : Label ω

/-- What a statement says. An entry of the select list has an alias or none, and the grouping column is always named
with its table. -/
structure Outline (ω : Type) where
  operation : Operation
  entries : List (Label ω × Option String)
  base : Option TableName
  joints : List (JointOutline ω)
  filters : Option (Filter ω × List (Chain × Filter ω))
  grouping : Option (Label String)

section

variable {ω υ : Type} (owner : Nat → ω) (f : ω → υ)

def Column.label (column : Column) : Label ω := ⟨owner column.table, column.name⟩

def Label.map (label : Label ω) : Label υ := ⟨f label.owner, label.name⟩

def Filter.headed : List (Chain × Filter ω) → Option (Filter ω × List (Chain × Filter ω))
  | [] => none
  | (_, first) :: others => some (first, others)

mutual
def Condition.filter? : Condition → Option (Filter ω)
  | .simple _ column operator value => some (.comparison (column.label owner) operator value)
  | .group _ conditions =>
    (Filter.headed (Condition.filters conditions)).map fun (first, others) => .group first others

def Condition.filters : List Condition → List (Chain × Filter ω)
  | [] => []
  | condition :: conditions =>
    match condition.filter? with
    | none => Condition.filters conditions
    | some filter => (condition.chain, filter) :: Condition.filters conditions
end

mutual
def Filter.map : Filter ω → Filter υ
  | .comparison column operator value => .comparison (column.map f) operator value
  | .group first others => .group first.map (Filter.mapOthers others)

def Filter.mapOthers : List (Chain × Filter ω) → List (Chain × Filter υ)
  | [] => []
  | (chain, filter) :: others => (chain, filter.map) :: Filter.mapOthers others
end

mutual
def Filter.values : Filter ω → List Json
  | .comparison _ _ value => [value]
  | .group first others => first.values ++ Filter.valuesOf others

def Filter.valuesOf : List (Chain × Filter ω) → List Json
  | [] => []
  | (_, filter) :: others => filter.values ++ Filter.valuesOf others
end

def Outline.values (outline : Outline ω) : List Json :=
  outline.filters.elim [] fun filters => filters.1.values ++ Filter.valuesOf filters.2

def Outline.map (outline : Outline ω) : Outline υ where
  operation := outline.operation
  entries := outline.entries.map fun entry => (entry.1.map f, entry.2)
  base := outline.base
  joints := outline.joints.map fun joint => ⟨joint.table, joint.left.map f, joint.right.map f⟩
  filters := outline.filters.map fun (first, others) => (first.map f, Filter.mapOthers f others)
  grouping := outline.grouping

end

theorem Filter.headed_eq_none_iff {ω : Type} (filters : List (Chain × Filter ω)) :
    Filter.headed filters = none ↔ filters = [] := by
  rcases filters with _ | ⟨⟨chain, first⟩, others⟩ <;> simp [Filter.headed]

namespace Condition

mutual
/-- Nothing is left of a condition when it holds no simple condition at any depth. -/
theorem filter?_eq_none_iff {ω : Type} (owner : Nat → ω) :
    ∀ condition : Condition, condition.filter? owner = none ↔ condition.comparisons = []
  | .simple chain column operator value => by simp [filter?, comparisons]
  | .group chain conditions => by
    rw [filter?, Option.map_eq_none_iff, Filter.headed_eq_none_iff, comparisons]
    exact filters_eq_nil_iff owner conditions

theorem filters_eq_nil_iff {ω : Type} (owner : Nat → ω) :
    ∀ conditions : List Condition, filters owner conditions = [] ↔ comparisonsOf conditions = []
  | [] => by simp [filters]
  | condition :: conditions => by
    have first := filter?_eq_none_iff owner condition
    have rest := filters_eq_nil_iff owner conditions
    rw [filters, comparisonsOf, List.append_eq_nil_iff, ← first, ← rest]
    cases condition.filter? owner <;> simp
end

mutual
theorem filter?_map {ω υ : Type} (owner : Nat → ω) (known : Nat → υ) (f : ω → υ) :
    ∀ condition : Condition,
      (∀ comparison ∈ condition.comparisons, known comparison.column.table = f (owner comparison.column.table)) →
      condition.filter? known = (condition.filter? owner).map (Filter.map f)
  | .simple chain column operator value, same => by
    have single := same ⟨chain, column, operator, value⟩ (by simp [comparisons])
    simp [filter?, Filter.map, Column.label, Label.map, single]
  | .group chain conditions, same => by
    rw [comparisons] at same
    have inner := filters_map owner known f conditions same
    rw [filter?, filter?, inner]
    rcases filters owner conditions with _ | ⟨⟨_, first⟩, others⟩
    · rfl
    · rfl

theorem filters_map {ω υ : Type} (owner : Nat → ω) (known : Nat → υ) (f : ω → υ) :
    ∀ conditions : List Condition,
      (∀ comparison ∈ comparisonsOf conditions,
        known comparison.column.table = f (owner comparison.column.table)) →
      filters known conditions = Filter.mapOthers f (filters owner conditions)
  | [], _ => rfl
  | condition :: conditions, same => by
    rw [comparisonsOf] at same
    have first := filter?_map owner known f condition fun comparison member =>
      same comparison (List.mem_append_left _ member)
    have rest := filters_map owner known f conditions fun comparison member =>
      same comparison (List.mem_append_right _ member)
    rw [filters, filters, first, rest]
    cases condition.filter? owner <;> rfl
end

mutual
theorem values_filter? {ω : Type} (owner : Nat → ω) :
    ∀ (condition : Condition) (filter : Filter ω), condition.filter? owner = some filter →
      filter.values = condition.comparisons.map (·.value)
  | .simple chain column operator value, filter, left => by
    rw [filter?] at left
    cases left
    rfl
  | .group chain conditions, filter, left => by
    have inner := values_filters owner conditions
    rw [filter?] at left
    rcases kept : filters owner conditions with _ | ⟨⟨first, head⟩, others⟩
    · rw [kept] at left
      cases left
    · rw [kept] at left inner
      cases left
      exact inner

theorem values_filters {ω : Type} (owner : Nat → ω) :
    ∀ conditions : List Condition,
      Filter.valuesOf (filters owner conditions) = (comparisonsOf conditions).map (·.value)
  | [] => rfl
  | condition :: conditions => by
    have rest := values_filters owner conditions
    rw [filters, comparisonsOf, List.map_append, ← rest]
    cases left : condition.filter? owner with
    | none =>
      rw [(filter?_eq_none_iff owner condition).mp left]
      rfl
    | some filter =>
      rw [← values_filter? owner condition filter left]
      rfl
end

end Condition

def Registry.aliasOf (registry : Registry) (id : Nat) : String := (registry.table id).aliasName

def Registry.tableName (registry : Registry) (id : Nat) : TableName :=
  ⟨(registry.table id).basename, (registry.table id).aliasName⟩

namespace Statement

def references (statement : Statement) : List Column :=
  statement.columns ++ statement.joints.flatMap (fun joint => [joint.left, joint.right]) ++
    (Condition.comparisonsOf statement.conditions).map (·.column) ++ statement.grouping.toList

theorem forall_references (statement : Statement) (holds : Column → Prop)
    (all : ∀ column ∈ statement.references, holds column) :
    (∀ column ∈ statement.columns, holds column) ∧
      (∀ joint ∈ statement.joints, holds joint.left ∧ holds joint.right) ∧
      (∀ comparison ∈ Condition.comparisonsOf statement.conditions, holds comparison.column) ∧
      ∀ column, statement.grouping = some column → holds column := by
  simp only [references, List.mem_append, List.mem_flatMap, List.mem_map, Option.mem_toList] at all
  refine ⟨?_, ?_, ?_, ?_⟩
  · exact fun column member => all column (.inl (.inl (.inl member)))
  · intro joint member
    have left := all joint.left (.inl (.inl (.inr ⟨joint, member, by simp⟩)))
    have right := all joint.right (.inl (.inl (.inr ⟨joint, member, by simp⟩)))
    exact ⟨left, right⟩
  · exact fun comparison member => all comparison.column (.inl (.inr ⟨comparison, member, rfl⟩))
  · exact fun column grouped => all column (.inr grouped)

def outlineWith {ω : Type} (owner : Nat → ω) (statement : Statement) : Outline ω where
  operation := statement.operation
  entries := statement.columns.map fun column => (column.label owner, column.aliasName)
  base := statement.base.map statement.tables.tableName
  joints := statement.joints.map fun joint =>
    ⟨statement.tables.tableName joint.table, joint.left.label owner, joint.right.label owner⟩
  filters := Filter.headed (Condition.filters owner statement.conditions)
  grouping := statement.grouping.map (Column.label statement.tables.aliasOf)

def outline (statement : Statement) : Outline String := statement.outlineWith statement.tables.aliasOf

theorem outline_map {ω υ : Type} (owner : Nat → ω) (known : Nat → υ) (f : ω → υ) (statement : Statement)
    (same : ∀ column ∈ statement.references, known column.table = f (owner column.table)) :
    statement.outlineWith known = (statement.outlineWith owner).map f := by
  obtain ⟨entries, joined, compared, _⟩ := statement.forall_references _ same
  have filtered := Condition.filters_map owner known f statement.conditions compared
  simp only [outlineWith, Outline.map, filtered, List.map_map, Outline.mk.injEq, true_and, and_true]
  refine ⟨?_, ?_, ?_⟩
  · apply List.map_congr_left
    intro column member
    simp [Column.label, Label.map, entries column member]
  · apply List.map_congr_left
    intro joint member
    simp [Column.label, Label.map, joined joint member]
  · rcases Condition.filters owner statement.conditions with _ | ⟨⟨_, first⟩, others⟩ <;> rfl

theorem values_outlineWith {ω : Type} (owner : Nat → ω) (statement : Statement) :
    (statement.outlineWith owner).values = (Condition.comparisonsOf statement.conditions).map (·.value) := by
  rw [← Condition.values_filters owner statement.conditions, Outline.values, outlineWith]
  rcases Condition.filters owner statement.conditions with _ | ⟨⟨_, first⟩, others⟩
  · rfl
  · rfl

end Statement
end SqlSelect

import SqlSelect.Proofs.Condition.Comparisons
import SqlSelect.Proofs.Statement.Renumbering

namespace SqlSelect

section Fixed

variable (f : Nat → Nat)

theorem Column.renumber_of_fixed (column : Column) (fixed : f column.table = column.table) :
    column.renumber f = column := by
  rw [renumber, fixed]

theorem Joint.renumber_of_fixed (joint : Joint) (table : f joint.table = joint.table)
    (left : f joint.left.table = joint.left.table) (right : f joint.right.table = joint.right.table) :
    joint.renumber f = joint := by
  rw [renumber, table, joint.left.renumber_of_fixed f left, joint.right.renumber_of_fixed f right]

namespace Condition

mutual
theorem renumber_of_fixed : (condition : Condition) →
    (∀ comparison ∈ condition.comparisons, f comparison.column.table = comparison.column.table) →
    condition.renumber f = condition
  | .simple chain column operator value, fixed => by
    have owner := fixed ⟨chain, column, operator, value⟩ (by simp [comparisons])
    rw [renumber, column.renumber_of_fixed f owner]
  | .group chain conditions, fixed => by
    rw [renumber, renumberAll_of_fixed conditions (by rwa [comparisons] at fixed)]

theorem renumberAll_of_fixed : (conditions : List Condition) →
    (∀ comparison ∈ comparisonsOf conditions, f comparison.column.table = comparison.column.table) →
    renumberAll f conditions = conditions
  | [], _ => rfl
  | condition :: conditions, fixed => by
    rw [comparisonsOf, List.forall_mem_append] at fixed
    rw [renumberAll, renumber_of_fixed condition fixed.1, renumberAll_of_fixed conditions fixed.2]
end

end Condition

end Fixed

namespace Scope

structure Widens (scope wider : Scope) : Prop where
  dialect : wider.dialect = scope.dialect
  qualified : wider.qualified = scope.qualified
  tables : scope.tables.tables <+: wider.tables.tables

namespace Widens

variable {scope wider : Scope} (widens : scope.Widens wider)

include widens

theorem eq_onto : wider = scope.onto wider.tables := by
  cases wider with
  | mk dialect tables qualified => rw [onto, ← widens.dialect, ← widens.qualified]

theorem names : Registry.SameNames (scope.tables.beyond wider.tables) scope.tables wider.tables :=
  scope.tables.sameNames_beyond wider.tables widens.tables

theorem columnsText (columns : List Column) (known : ∀ column ∈ columns, column.table < scope.tables.size) :
    wider.columnsText columns = scope.columnsText columns := by
  have each : ∀ column ∈ columns, column.renumber (scope.tables.beyond wider.tables) = id column :=
    fun column member => column.renumber_of_fixed _ (scope.tables.beyond_of_lt wider.tables _ (known column member))
  have fixed := (List.map_congr_left each).trans (List.map_id columns)
  have text := scope.columnsText_onto _ wider.tables widens.names columns
  rwa [fixed, ← widens.eq_onto] at text

theorem baseText (base : Option Nat) (known : ∀ id, base = some id → id < scope.tables.size) :
    wider.baseText base = scope.baseText base := by
  have fixed : base.map (scope.tables.beyond wider.tables) = base := by
    cases base with
    | none => rfl
    | some id => rw [Option.map_some, scope.tables.beyond_of_lt wider.tables id (known id rfl)]
  have text := scope.baseText_onto _ wider.tables widens.names base
  rwa [fixed, ← widens.eq_onto] at text

theorem jointsText (joints : List Joint) (joined : ∀ joint ∈ joints, joint.table < scope.tables.size)
    (known : ∀ joint ∈ joints, joint.left.table < scope.tables.size ∧ joint.right.table < scope.tables.size) :
    wider.jointsText joints = scope.jointsText joints := by
  have kept := scope.tables.beyond_of_lt wider.tables
  have each : ∀ joint ∈ joints, joint.renumber (scope.tables.beyond wider.tables) = id joint := by
    intro joint member
    obtain ⟨left, right⟩ := known joint member
    exact joint.renumber_of_fixed _ (kept _ (joined joint member)) (kept _ left) (kept _ right)
  have fixed := (List.map_congr_left each).trans (List.map_id joints)
  have text := scope.jointsText_onto _ wider.tables widens.names joints
  rwa [fixed, ← widens.eq_onto] at text

theorem conditionsText (conditions : List Condition)
    (known : ∀ comparison ∈ Condition.comparisonsOf conditions, comparison.column.table < scope.tables.size) :
    wider.conditionsText conditions = scope.conditionsText conditions := by
  have fixed := Condition.renumberAll_of_fixed (scope.tables.beyond wider.tables) conditions
    fun comparison member => scope.tables.beyond_of_lt wider.tables _ (known comparison member)
  have text := scope.conditionsText_onto _ wider.tables widens.names conditions
  rwa [fixed, ← widens.eq_onto] at text

theorem groupingText (grouping : Option Column)
    (known : ∀ column, grouping = some column → column.table < scope.tables.size) :
    wider.groupingText grouping = scope.groupingText grouping := by
  have fixed : grouping.map (Column.renumber (scope.tables.beyond wider.tables)) = grouping := by
    cases grouping with
    | none => rfl
    | some column =>
      rw [Option.map_some, column.renumber_of_fixed _ (scope.tables.beyond_of_lt wider.tables _ (known column rfl))]
  have text := scope.groupingText_onto _ wider.tables widens.names grouping
  rwa [fixed, ← widens.eq_onto] at text

end Widens

end Scope
end SqlSelect

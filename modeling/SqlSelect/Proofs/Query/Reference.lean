import SqlSelect.Proofs.Query.Tables
import SqlSelect.Proofs.Statement.Reference

namespace SqlSelect.Query

def writtenReferences (query : Query) (scope : Scope) : List (Column × String) :=
  (query.columns ++ query.joints.flatMap (fun joint => [joint.left, joint.right]) ++
      query.filters.comparisons.map (·.column)).map (fun column => (column, scope.columnText column)) ++
    query.grouping.toList.map fun column => (column, scope.columnTextWith true column)

theorem written_cases (query : Query) (scope : Scope) (reference : Column × String)
    (member : reference ∈ query.writtenReferences scope) :
    reference.1 ∈ query.references ∧ ∃ qualified, (qualified = false → scope.qualified = false) ∧
      reference.2 = scope.columnTextWith qualified reference.1 := by
  rcases List.mem_append.mp member with member | member
  · obtain ⟨column, inside, rfl⟩ := List.mem_map.mp member
    exact ⟨List.mem_append_left _ inside, scope.qualified, fun bare => bare, rfl⟩
  · obtain ⟨column, inside, rfl⟩ := List.mem_map.mp member
    exact ⟨List.mem_append_right _ inside, true, by simp, rfl⟩

/-- The text of a reference tells the column and its table. Tables are left out only where all columns are of one. -/
theorem reference_unambiguous (calls : List Call) (dialect : Dialect) (qualify : Qualify) (policy : qualify ≠ .never) :
    let query := ({} : Query).runAll calls
    let scope := Scope.of dialect qualify query.tables
    (∀ left ∈ query.writtenReferences scope, ∀ right ∈ query.writtenReferences scope,
      Text.isPlainIdentifier left.1.name = true → Text.isPlainIdentifier right.1.name = true →
      left.2 = right.2 → left.1.table = right.1.table ∧ left.1.name = right.1.name) ∧
    (scope.qualified = false →
      ∀ left ∈ query.references, ∀ right ∈ query.references, left.table = right.table) := by
  intro query scope
  have grounded : query.Grounded := grounded_runAll calls
  have single : scope.qualified = false → query.tables.size ≤ 1 :=
    Scope.size_of_unqualified dialect qualify query.tables policy
  constructor
  · intro left member right other plain simple same
    obtain ⟨inside, first, bare, written⟩ := query.written_cases scope left member
    obtain ⟨among, second, _, text⟩ := query.written_cases scope right other
    rw [written, text] at same
    exact scope.columnTextWith_inj (wellNamed_runAll calls) first second left.1 right.1
      (grounded.owners left.1 inside) (grounded.owners right.1 among) (fun plainly => single (bare plainly)) plain simple
      same
  · intro bare left member right other
    have one := single bare
    have first := grounded.owners left member
    have second := grounded.owners right other
    omega

/-- An alias with a dot stays apart from the names behind it, and the grouping column from the selected one has its
text only because it is the same column. -/
theorem reference_unambiguous_dotted :
    let query := ({} : Query).runAll [.select "users a.b" [⟨"x", some "key"⟩] false, .join "items a" "x" "a.b",
      .groupBy "users a.b" "x"]
    let scope := Scope.of .plain .auto query.tables
    Qualify.auto ≠ .never ∧ (⟨"x", some "key", 0⟩, "a.b.x") ∈ query.writtenReferences scope ∧
      (⟨"x", none, 0⟩, "a.b.x") ∈ query.writtenReferences scope ∧ Text.isPlainIdentifier "x" = true ∧
      (Column.mk "x" (some "key") 0).table = (Column.mk "x" none 0).table ∧
      (Column.mk "x" (some "key") 0).name = (Column.mk "x" none 0).name := by
  intro query scope
  have selected : (⟨"x", some "key", 0⟩, "a.b.x") ∈ query.writtenReferences scope := by decide +kernel
  have grouped : (⟨"x", none, 0⟩, "a.b.x") ∈ query.writtenReferences scope := by decide +kernel
  have plain : Text.isPlainIdentifier "x" = true := by decide
  refine ⟨by decide, selected, grouped, plain, ?_⟩
  exact (reference_unambiguous _ .plain .auto (by decide)).1 _ selected _ grouped plain plain rfl

end SqlSelect.Query

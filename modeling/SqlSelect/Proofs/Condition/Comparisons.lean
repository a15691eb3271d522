import SqlSelect.Condition

namespace SqlSelect

structure Comparison where
  chain : Chain
  column : Column
  operator : Operator
  value : Json

namespace Condition

mutual
def comparisons : Condition → List Comparison
  | .simple chain column operator value => [⟨chain, column, operator, value⟩]
  | .group _ conditions => comparisonsOf conditions

def comparisonsOf : List Condition → List Comparison
  | [] => []
  | condition :: conditions => condition.comparisons ++ comparisonsOf conditions
end

@[simp] theorem comparisonsOf_nil : comparisonsOf [] = [] := rfl

@[simp] theorem comparisonsOf_append (left right : List Condition) :
    comparisonsOf (left ++ right) = comparisonsOf left ++ comparisonsOf right := by
  induction left with
  | nil => rfl
  | cons condition left ih =>
    rw [List.cons_append, comparisonsOf, comparisonsOf, ih, List.append_assoc]

@[simp] theorem comparisonsOf_singleton (condition : Condition) :
    comparisonsOf [condition] = condition.comparisons := by
  rw [comparisonsOf, comparisonsOf, List.append_nil]

end Condition

namespace Filters

open Condition (comparisonsOf comparisonsOf_append)

theorem comparisonsOf_plug (current : List Condition) (enclosing : List OpenGroup) :
    comparisonsOf (plug current enclosing) = comparisonsOf (plug [] enclosing) ++ comparisonsOf current := by
  induction enclosing generalizing current with
  | nil => rfl
  | cons group enclosing ih =>
    rw [plug, plug, ih, ih (group.before ++ [Condition.group group.chain []])]
    simp [Condition.comparisons]

def comparisons (filters : Filters) : List Comparison := comparisonsOf filters.conditions

theorem comparisons_push (filters : Filters) (condition : Condition) :
    (filters.push condition).comparisons = filters.comparisons ++ condition.comparisons := by
  simp only [comparisons, conditions, push]
  rw [comparisonsOf_plug, comparisonsOf_plug filters.current, comparisonsOf_append, List.append_assoc,
    Condition.comparisonsOf_singleton]

theorem comparisons_openGroup (filters : Filters) (chain : Chain) :
    (filters.openGroup chain).comparisons = filters.comparisons := by
  have opened := comparisons_push filters (.group chain [])
  rw [comparisons, ← conditions_openGroup] at opened
  rw [comparisons, opened, Condition.comparisons, Condition.comparisonsOf_nil, List.append_nil]

theorem comparisons_closeGroup (filters : Filters) : filters.closeGroup.comparisons = filters.comparisons := by
  rw [comparisons, conditions_closeGroup, comparisons]

end Filters
end SqlSelect

import SqlSelect.Proofs.Condition.Comparisons
import SqlSelect.Proofs.Statement.Written

namespace SqlSelect.Scope

def lengthened (chain : Chain) (condition fragment : String) : String :=
  if fragment = "" then " WHERE " ++ condition else fragment ++ " " ++ chain.keyword ++ " " ++ condition

variable (scope : Scope)

theorem columnsText_append (columns added : List Column) (listed : columns ≠ []) :
    scope.columnsText (columns ++ added) =
      scope.columnsText columns ++ String.join (added.map fun column => ", " ++ scope.entryText column) := by
  cases columns with
  | nil => exact absurd rfl listed
  | cons column columns =>
    rw [← String.toList_inj]
    simp only [List.cons_append, columnsText, List.map_cons, List.map_append, String.toList_append,
      toList_intercalate_cons, List.flatMap_append, List.append_assoc, String.toList_join, List.flatMap_map]

theorem jointsText_append (joints added : List Joint) :
    scope.jointsText (joints ++ added) = scope.jointsText joints ++ scope.jointsText added := by
  rw [jointsText, List.map_append, String.join_append, jointsText, jointsText]

theorem conditionTexts_append (conditions added : List Condition) :
    scope.conditionTexts (conditions ++ added) = scope.conditionTexts conditions ++ scope.conditionTexts added := by
  induction conditions with
  | nil => rw [conditionTexts, List.nil_append, List.nil_append]
  | cons condition conditions ih =>
    rw [List.cons_append, conditionTexts, conditionTexts, ih]
    cases scope.conditionText condition with
    | none => rfl
    | some text => rfl

/-- Where a list of conditions stands for another of the same text, what it stands in has the same text. -/
theorem conditionTexts_plug (current other : List Condition) (enclosing : List OpenGroup)
    (same : scope.conditionTexts current = scope.conditionTexts other) :
    scope.conditionTexts (Filters.plug current enclosing) = scope.conditionTexts (Filters.plug other enclosing) := by
  induction enclosing generalizing current other with
  | nil => exact same
  | cons group enclosing ih =>
    rw [Filters.plug, Filters.plug]
    apply ih
    simp only [conditionTexts_append, conditionTexts, conditionText, same]
    rfl

theorem chained_append (texts : List (Chain × String)) (chain : Chain) (next : String) :
    chained (texts ++ [(chain, next)]) =
      some ((chained texts).elim next fun text => text ++ " " ++ chain.keyword ++ " " ++ next) := by
  rcases texts with _ | ⟨⟨link, first⟩, rest⟩
  · rfl
  · rw [List.cons_append, chained_cons, chained_cons, List.foldl_append]
    rfl

theorem chained_eq_none_iff (texts : List (Chain × String)) : chained texts = none ↔ texts = [] := by
  rcases texts with _ | ⟨⟨link, first⟩, rest⟩
  · exact iff_of_true rfl rfl
  · simp [chained_cons]

mutual
/-- Only comparisons show: a group has a text if one stands in it, at whatever depth. -/
theorem conditionText_eq_none_iff :
    (condition : Condition) → (scope.conditionText condition = none ↔ condition.comparisons = [])
  | .simple chain column operator value => by simp [conditionText, Condition.comparisons]
  | .group chain conditions => by
    rw [Condition.comparisons, ← conditionTexts_eq_nil_iff conditions, ← chained_eq_none_iff, conditionText]
    cases chained (scope.conditionTexts conditions) with
    | none => simp
    | some inner => simp

theorem conditionTexts_eq_nil_iff :
    (conditions : List Condition) → (scope.conditionTexts conditions = [] ↔ Condition.comparisonsOf conditions = [])
  | [] => by simp [conditionTexts]
  | condition :: conditions => by
    rw [Condition.comparisonsOf, List.append_eq_nil_iff, ← conditionText_eq_none_iff condition,
      ← conditionTexts_eq_nil_iff conditions, conditionTexts]
    cases scope.conditionText condition with
    | none => simp
    | some text => simp
end

theorem conditionsText_push (conditions : List Condition) (condition : Condition) :
    scope.conditionsText (conditions ++ [condition]) =
      match scope.conditionText condition with
      | none => scope.conditionsText conditions
      | some text => lengthened condition.chain text (scope.conditionsText conditions) := by
  rw [conditionsText, conditionTexts_append, conditionTexts, conditionTexts]
  cases scope.conditionText condition with
  | none =>
    rw [List.append_nil]
    rfl
  | some text =>
    dsimp only
    rw [chained_append, conditionsText]
    cases chained (scope.conditionTexts conditions) with
    | none => rfl
    | some before =>
      have written : " WHERE " ++ before ≠ "" := by simp
      simp only [Option.elim_some, lengthened, written, if_false, String.append_assoc]

end SqlSelect.Scope

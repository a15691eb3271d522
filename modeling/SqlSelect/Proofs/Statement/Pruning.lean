import SqlSelect.Proofs.Condition.Pruning
import SqlSelect.Proofs.Statement.Appending

namespace SqlSelect.Scope

open Condition (Anywhere Drops Rechains Hides comparisonsOf prune)

variable (scope : Scope)

mutual
def fullText : Condition → String
  | .simple _ column operator value => scope.simpleText column operator value
  | .group _ conditions => "(" ++ listText conditions ++ ")"

def listText : List Condition → String
  | [] => ""
  | condition :: conditions => fullText condition ++ restText conditions

def restText : List Condition → String
  | [] => ""
  | condition :: conditions => " " ++ condition.chain.keyword ++ " " ++ fullText condition ++ restText conditions
end

theorem conditionTexts_drops (conditions changed : List Condition) (dropped : Drops conditions changed) :
    scope.conditionTexts changed = scope.conditionTexts conditions := by
  obtain ⟨before, after, chain, inner, empty⟩ := dropped
  have silent : scope.conditionText (.group chain inner) = none := (scope.conditionText_eq_none_iff _).mpr empty
  rw [conditionTexts_append, conditionTexts_append, conditionTexts, silent]

theorem conditionText_withChain (condition : Condition) (chain : Chain) :
    scope.conditionText (condition.withChain chain) = scope.conditionText condition := by
  cases condition with
  | simple => rfl
  | group _ conditions => rw [Condition.withChain, conditionText, conditionText]

theorem chained_rechains (conditions changed : List Condition) (rechained : Rechains conditions changed) :
    chained (scope.conditionTexts changed) = chained (scope.conditionTexts conditions) := by
  obtain ⟨before, after, condition, chain, front⟩ := rechained
  have silent := (scope.conditionTexts_eq_nil_iff before).mpr front
  rw [conditionTexts_append, conditionTexts_append, silent, conditionTexts, conditionTexts, conditionText_withChain]
  cases scope.conditionText condition with
  | none => rfl
  | some text => rfl

section

variable (step : List Condition → List Condition → Prop)
  (silent : ∀ conditions changed, step conditions changed →
    chained (scope.conditionTexts changed) = chained (scope.conditionTexts conditions))

include silent

theorem chained_of_anywhere (conditions changed : List Condition) (taken : Anywhere step conditions changed) :
    chained (scope.conditionTexts changed) = chained (scope.conditionTexts conditions) := by
  induction taken with
  | here conditions changed taken => exact silent conditions changed taken
  | inside before after chain current changed _ same =>
    -- a group is written from the chained texts in it, so it does not tell the two lists apart
    have group : scope.conditionText (.group chain changed) = scope.conditionText (.group chain current) := by
      rw [conditionText, conditionText, same]
    rw [conditionTexts_append, conditionTexts_append, conditionTexts, conditionTexts, group]
    rfl

theorem chained_of_steps (conditions changed : List Condition)
    (taken : Relation.ReflTransGen (Anywhere step) conditions changed) :
    chained (scope.conditionTexts changed) = chained (scope.conditionTexts conditions) := by
  induction taken with
  | refl => rfl
  | tail _ last same => rw [scope.chained_of_anywhere step silent _ _ last, same]

end

theorem chained_hides (conditions changed : List Condition) (hidden : Hides conditions changed) :
    chained (scope.conditionTexts changed) = chained (scope.conditionTexts conditions) := by
  rcases hidden with dropped | rechained
  · rw [scope.conditionTexts_drops conditions changed dropped]
  · exact scope.chained_rechains conditions changed rechained

theorem foldl_restText (conditions : List Condition) (text : String) :
    (conditions.map fun condition => (condition.chain, scope.fullText condition)).foldl
        (fun text (chain, next) => text ++ " " ++ chain.keyword ++ " " ++ next) text =
      text ++ scope.restText conditions := by
  induction conditions generalizing text with
  | nil => simp [restText]
  | cons condition conditions ih =>
    rw [List.map_cons, List.foldl_cons, ih, restText]
    simp only [String.append_assoc]

theorem chained_eq_listText (conditions : List Condition) (filled : conditions ≠ []) :
    chained (conditions.map fun condition => (condition.chain, scope.fullText condition)) =
      some (scope.listText conditions) := by
  cases conditions with
  | nil => exact absurd rfl filled
  | cons condition conditions => rw [List.map_cons, chained_cons, foldl_restText, listText]

mutual
theorem conditionText_of_solid : (condition : Condition) → condition.Solid →
    scope.conditionText condition = some (scope.fullText condition)
  | .simple .., _ => rfl
  | .group chain conditions, solid => by
    cases solid with
    | group _ _ filled inner =>
      have written := scope.chained_eq_listText conditions filled
      rw [← conditionTexts_of_solid conditions inner] at written
      rw [conditionText, written, fullText]

theorem conditionTexts_of_solid : (conditions : List Condition) → (∀ condition ∈ conditions, condition.Solid) →
    scope.conditionTexts conditions = conditions.map fun condition => (condition.chain, scope.fullText condition)
  | [], _ => rfl
  | condition :: conditions, solid => by
    have first := conditionText_of_solid condition (solid condition List.mem_cons_self)
    have rest := conditionTexts_of_solid conditions fun other member => solid other (List.mem_cons_of_mem _ member)
    rw [conditionTexts, first, rest, List.map_cons]
end

theorem conditionsText_eq_empty_iff (conditions : List Condition) :
    scope.conditionsText conditions = "" ↔ comparisonsOf conditions = [] := by
  rw [← scope.conditionTexts_eq_nil_iff, ← chained_eq_none_iff, conditionsText]
  cases chained (scope.conditionTexts conditions) with
  | none => simp
  | some text => simp

theorem conditionsText_of_filled (conditions : List Condition) (filled : comparisonsOf conditions ≠ []) :
    scope.conditionsText conditions = " WHERE " ++ scope.listText (prune conditions) := by
  have dropped := Condition.drops_prune conditions
  have solid := Condition.solid_prune conditions
  have left : prune conditions ≠ [] := mt (Condition.prune_eq_nil_iff conditions).mp filled
  have same := scope.chained_of_steps Drops (fun _ _ taken => scope.chained_hides _ _ (.inl taken)) _ _ dropped
  rw [conditionsText, ← same, scope.conditionTexts_of_solid _ solid, scope.chained_eq_listText _ left]

/-- However many groups without simple conditions are taken out, and however often the chain of a leading entry changes,
the clause stays the same. It is empty if there is no simple condition, and otherwise that of the pruned conditions. -/
theorem where_pruned (dialect : Dialect) (qualify : Qualify) (tables : Registry) (conditions : List Condition) :
    let scope := Scope.of dialect qualify tables
    (∀ changed, Relation.ReflTransGen (Anywhere Hides) conditions changed →
        scope.conditionsText changed = scope.conditionsText conditions) ∧
      (scope.conditionsText conditions = "" ↔ comparisonsOf conditions = []) ∧
      (comparisonsOf conditions ≠ [] →
        scope.conditionsText conditions = " WHERE " ++ scope.listText (prune conditions)) ∧
      Relation.ReflTransGen (Anywhere Drops) conditions (prune conditions) ∧
      ∀ condition ∈ prune conditions, condition.Solid := by
  intro scope
  have dropped := Condition.drops_prune conditions
  have solid := Condition.solid_prune conditions
  refine ⟨?_, scope.conditionsText_eq_empty_iff conditions, scope.conditionsText_of_filled conditions, dropped, solid⟩
  intro changed hidden
  rw [conditionsText, conditionsText, scope.chained_of_steps Hides scope.chained_hides conditions changed hidden]

/-- A group that holds only an empty one goes from within a group, and an empty group leads, so the chain behind it does
not show. -/
theorem where_pruned_nested :
    let tables : Registry := ⟨[⟨"users", "users", true, false⟩]⟩
    let scope := Scope.of .ansi .auto tables
    let comparison : Condition := .simple .or ⟨"id", none, 0⟩ .is .null
    let conditions : List Condition := [.group .and [], .group .or [comparison, .group .or [.group .and []]]]
    let changed : List Condition := [.group .and [], .group .and [comparison]]
    Relation.ReflTransGen (Anywhere Hides) conditions changed ∧
      scope.conditionsText changed = scope.conditionsText conditions ∧
      comparisonsOf conditions ≠ [] ∧ scope.conditionsText conditions = " WHERE (\"id\" IS NULL)" := by
  intro tables scope comparison conditions changed
  have dropped : Hides [comparison, .group .or [.group .and []]] [comparison] := .inl (.intro [comparison] [] .or _ rfl)
  have rechained : Hides [.group .and [], .group .or [comparison]] changed := .inr (.intro [.group .and []] [] _ .and rfl)
  have hidden : Relation.ReflTransGen (Anywhere Hides) conditions changed :=
    .head (.inside [.group .and []] [] .or _ _ (.here _ _ dropped)) (.single (.here _ _ rechained))
  have left : comparisonsOf conditions ≠ [] := by simp [conditions, comparison, comparisonsOf, Condition.comparisons]
  obtain ⟨unchanged, _, shown, _⟩ := where_pruned .ansi .auto tables conditions
  exact ⟨hidden, unchanged _ hidden, left, (shown left).trans (by decide)⟩

end SqlSelect.Scope

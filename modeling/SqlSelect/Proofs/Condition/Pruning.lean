import Mathlib.Logic.Relation
import SqlSelect.Proofs.Condition.Comparisons

namespace SqlSelect.Condition

def withChain (chain : Chain) : Condition → Condition
  | simple _ column operator value => simple chain column operator value
  | group _ conditions => group chain conditions

inductive Drops : List Condition → List Condition → Prop where
  | intro (before after : List Condition) (chain : Chain) (conditions : List Condition)
      (empty : comparisonsOf conditions = []) : Drops (before ++ group chain conditions :: after) (before ++ after)

/-- An entry gets another chain that has no simple condition before it: the first that holds one, or one in front of
that. -/
inductive Rechains : List Condition → List Condition → Prop where
  | intro (before after : List Condition) (condition : Condition) (chain : Chain) (front : comparisonsOf before = []) :
      Rechains (before ++ condition :: after) (before ++ condition.withChain chain :: after)

def Hides (conditions changed : List Condition) : Prop := Drops conditions changed ∨ Rechains conditions changed

inductive Anywhere (step : List Condition → List Condition → Prop) : List Condition → List Condition → Prop where
  | here (conditions changed : List Condition) (taken : step conditions changed) : Anywhere step conditions changed
  | inside (before after : List Condition) (chain : Chain) (current changed : List Condition)
      (taken : Anywhere step current changed) :
      Anywhere step (before ++ group chain current :: after) (before ++ group chain changed :: after)

mutual
def pruned : Condition → Condition
  | simple chain column operator value => simple chain column operator value
  | group chain conditions => group chain (prune conditions)

def prune : List Condition → List Condition
  | [] => []
  | condition :: conditions =>
    if condition.comparisons = [] then prune conditions else condition.pruned :: prune conditions
end

inductive Solid : Condition → Prop where
  | simple (chain : Chain) (column : Column) (operator : Operator) (value : Json) :
      Solid (simple chain column operator value)
  | group (chain : Chain) (conditions : List Condition) (filled : conditions ≠ [])
      (inner : ∀ condition ∈ conditions, Solid condition) : Solid (group chain conditions)

mutual
theorem comparisons_pruned : (condition : Condition) → condition.pruned.comparisons = condition.comparisons
  | simple .. => rfl
  | group _ conditions => comparisonsOf_prune conditions

theorem comparisonsOf_prune : (conditions : List Condition) → comparisonsOf (prune conditions) = comparisonsOf conditions
  | [] => rfl
  | condition :: conditions => by
    have rest := comparisonsOf_prune conditions
    by_cases empty : condition.comparisons = []
    · simp [prune, comparisonsOf, empty, rest]
    · simp [prune, comparisonsOf, empty, rest, comparisons_pruned condition]
end

theorem prune_eq_nil_iff (conditions : List Condition) : prune conditions = [] ↔ comparisonsOf conditions = [] := by
  induction conditions with
  | nil => simp [prune]
  | cons condition conditions ih =>
    by_cases empty : condition.comparisons = []
    · simp [prune, comparisonsOf, empty, ih]
    · simp [prune, comparisonsOf, empty]

mutual
theorem solid_pruned : (condition : Condition) → condition.comparisons ≠ [] → condition.pruned.Solid
  | simple chain column operator value, _ => .simple chain column operator value
  | group chain conditions, filled => by
    have left : prune conditions ≠ [] := mt (prune_eq_nil_iff conditions).mp filled
    exact .group chain (prune conditions) left (solid_prune conditions)

theorem solid_prune : (conditions : List Condition) → ∀ condition ∈ prune conditions, condition.Solid
  | [], _, member => by cases member
  | first :: conditions, condition, member => by
    rw [prune] at member
    split at member
    · exact solid_prune conditions condition member
    · rename_i filled
      rcases List.mem_cons.mp member with rfl | member
      · exact solid_pruned first filled
      · exact solid_prune conditions condition member
end

theorem Anywhere.cons (first : Condition) (conditions changed : List Condition)
    (taken : Anywhere Drops conditions changed) : Anywhere Drops (first :: conditions) (first :: changed) := by
  cases taken with
  | here _ _ dropped =>
    cases dropped with
    | intro before after chain inner empty => exact .here _ _ (.intro (first :: before) after chain inner empty)
  | inside before after chain current changed taken => exact .inside (first :: before) after chain current changed taken

mutual
theorem drops_pruned : (condition : Condition) → (conditions : List Condition) →
    Relation.ReflTransGen (Anywhere Drops) (condition :: conditions) (condition.pruned :: conditions)
  | simple .., _ => .refl
  | group chain current, conditions =>
    (drops_prune current).lift (fun inner => group chain inner :: conditions) fun _ _ taken =>
      .inside [] conditions chain _ _ taken

theorem drops_prune : (conditions : List Condition) → Relation.ReflTransGen (Anywhere Drops) conditions (prune conditions)
  | [] => .refl
  | condition :: conditions => by
    have rest := drops_prune conditions
    rw [prune]
    split
    · rename_i empty
      cases condition with
      | simple => cases empty
      | group chain current => exact .head (.here _ _ (.intro [] conditions chain current empty)) rest
    · have kept := rest.lift (condition :: ·) (Anywhere.cons condition)
      exact kept.trans (drops_pruned condition (prune conditions))
end

end SqlSelect.Condition

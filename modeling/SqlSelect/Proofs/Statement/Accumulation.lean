import SqlSelect.Proofs.Statement.Appending

namespace SqlSelect.Scope

/-- One more text behind what has been written so far. Its keyword is left out if nothing has been written. -/
def grown (written : String) (entry : Chain × String) : String :=
  (if written = "" then written else written ++ " " ++ entry.1.keyword ++ " ") ++ entry.2

def unlessEmpty (text : String) : Option String := if text = "" then none else some text

mutual
def accumulated? (scope : Scope) : Condition → Option String
  | .simple _ column operator value => some (scope.simpleText column operator value)
  | .group _ conditions => (unlessEmpty (accumulate scope "" conditions)).map fun inner => "(" ++ inner ++ ")"

def accumulate (scope : Scope) (written : String) : List Condition → String
  | [] => written
  | condition :: conditions =>
    match accumulated? scope condition with
    | none => accumulate scope written conditions
    | some text => accumulate scope (grown written (condition.chain, text)) conditions
end

theorem grown_of_written (written : String) (entry : Chain × String) (started : written ≠ "") :
    grown written entry = written ++ " " ++ entry.1.keyword ++ " " ++ entry.2 := by
  rw [grown, if_neg started]

theorem foldl_grown_of_written (texts : List (Chain × String)) (written : String) (started : written ≠ "") :
    texts.foldl grown written ≠ "" ∧
      texts.foldl grown written = texts.foldl (fun text (chain, next) => text ++ " " ++ chain.keyword ++ " " ++ next)
        written := by
  induction texts generalizing written with
  | nil => exact ⟨started, rfl⟩
  | cons entry texts ih =>
    have longer : written ++ " " ++ entry.1.keyword ++ " " ++ entry.2 ≠ "" := by simp
    rw [List.foldl_cons, List.foldl_cons, grown_of_written written entry started]
    exact ih _ longer

/-- A text that is not there yet is told from an empty one only because no entry is empty. -/
theorem unlessEmpty_foldl_grown (texts : List (Chain × String)) (filled : ∀ entry ∈ texts, entry.2 ≠ "") :
    unlessEmpty (texts.foldl grown "") = chained texts := by
  cases texts with
  | nil => rfl
  | cons entry texts =>
    have first : grown "" entry = entry.2 := by simp [grown]
    obtain ⟨started, same⟩ := foldl_grown_of_written texts entry.2 (filled entry List.mem_cons_self)
    rw [List.foldl_cons, first, unlessEmpty, if_neg started, same, chained_cons]

variable (scope : Scope)

theorem conditionText_ne_empty (condition : Condition) (text : String)
    (written : scope.conditionText condition = some text) : text ≠ "" := by
  cases condition with
  | simple chain column operator value =>
    cases written
    simp [simpleText]
  | group chain conditions =>
    rw [conditionText] at written
    cases shown : chained (scope.conditionTexts conditions) with
    | none =>
      rw [shown] at written
      cases written
    | some inner =>
      rw [shown] at written
      cases written
      simp

theorem ne_empty_of_mem_conditionTexts (conditions : List Condition) :
    ∀ entry ∈ scope.conditionTexts conditions, entry.2 ≠ "" := by
  induction conditions with
  | nil => simp [conditionTexts]
  | cons condition conditions ih =>
    rw [conditionTexts]
    cases written : scope.conditionText condition with
    | none => exact ih
    | some text =>
      exact List.forall_mem_cons.mpr ⟨scope.conditionText_ne_empty condition text written, ih⟩

mutual
theorem accumulated?_eq : (condition : Condition) → scope.accumulated? condition = scope.conditionText condition
  | .simple .. => rfl
  | .group chain conditions => by
    have inner := unlessEmpty_foldl_grown _ (scope.ne_empty_of_mem_conditionTexts conditions)
    rw [accumulated?, conditionText, accumulate_eq conditions "", inner]
    cases chained (scope.conditionTexts conditions) with
    | none => rfl
    | some inner => rfl

theorem accumulate_eq : (conditions : List Condition) → (written : String) →
    scope.accumulate written conditions = (scope.conditionTexts conditions).foldl grown written
  | [], _ => rfl
  | condition :: conditions, written => by
    rw [accumulate, conditionTexts, accumulated?_eq condition]
    cases scope.conditionText condition with
    | none => exact accumulate_eq conditions written
    | some text => exact accumulate_eq conditions _
end

/-- The clause is what comes out when the conditions are written one after the other, with a keyword before each where
something has been written, and nothing is written for a group in which that leaves nothing. -/
theorem conditionsText_eq_accumulate (conditions : List Condition) :
    scope.conditionsText conditions = (unlessEmpty (scope.accumulate "" conditions)).elim "" (" WHERE " ++ ·) := by
  rw [conditionsText, scope.accumulate_eq, unlessEmpty_foldl_grown _ (scope.ne_empty_of_mem_conditionTexts conditions)]
  cases chained (scope.conditionTexts conditions) with
  | none => rfl
  | some text => rfl

end SqlSelect.Scope

import SqlSelect.Error
import SqlSelect.Text.Blank
import SqlSelect.Text.Ascii

namespace SqlSelect

inductive Operator where
  | eq | neq | lt | lte | gt | gte | like | notLike | inList | notInList | is | isNot
  deriving DecidableEq, Repr

namespace Operator

def sql : Operator → String
  | eq => "="
  | neq => "!="
  | lt => "<"
  | lte => "<="
  | gt => ">"
  | gte => ">="
  | like => "LIKE"
  | notLike => "NOT LIKE"
  | inList => "IN"
  | notInList => "NOT IN"
  | is => "IS"
  | isNot => "IS NOT"

def takesList : Operator → Bool
  | inList | notInList => true
  | _ => false

def spelling : Operator → List String
  | notLike => ["NOT", "LIKE"]
  | notInList => ["NOT", "IN"]
  | isNot => ["IS", "NOT"]
  | operator => [operator.sql]

theorem sql_eq_intercalate (operator : Operator) : operator.sql = " ".intercalate operator.spelling := by
  cases operator <;> decide

def ofWords? : List String → Option Operator
  | ["="] | ["=="] => some eq
  | ["!="] | ["<>"] => some neq
  | ["<"] => some lt
  | ["<="] => some lte
  | [">"] => some gt
  | [">="] => some gte
  | ["LIKE"] => some like
  | ["NOT", "LIKE"] => some notLike
  | ["IN"] => some inList
  | ["NOT", "IN"] => some notInList
  | ["IS"] => some is
  | ["IS", "NOT"] => some isNot
  | _ => none

theorem ofWords?_spelling (operator : Operator) : ofWords? operator.spelling = some operator := by
  cases operator <;> rfl

theorem ofWords?_eq_some_iff (words : List String) (operator : Operator) :
    ofWords? words = some operator ↔
      words = operator.spelling ∨ (words = ["=="] ∧ operator = eq) ∨
        (words = ["<>"] ∧ operator = neq) := by
  constructor
  · intro h
    unfold ofWords? at h
    split at h <;> simp_all <;> subst h <;> simp [spelling, sql]
  · rintro (rfl | ⟨rfl, rfl⟩ | ⟨rfl, rfl⟩)
    · exact ofWords?_spelling operator
    · rfl
    · rfl

def parse (text : String) : Except QueryError Operator :=
  match ofWords? ((Text.words text).map Text.upper) with
  | some operator => .ok operator
  | none => .error (.invalidOperator text)

end Operator
end SqlSelect

import SqlSelect.Column
import SqlSelect.Operator
import SqlSelect.Json.Basic

namespace SqlSelect

inductive Chain where
  | and | or
  deriving DecidableEq, Repr

def Chain.keyword : Chain → String
  | .and => "AND"
  | .or => "OR"

inductive Condition where
  | simple (chain : Chain) (column : Column) (operator : Operator) (value : Json)
  | group (chain : Chain) (conditions : List Condition)

def Condition.chain : Condition → Chain
  | simple chain .. => chain
  | group chain _ => chain

structure OpenGroup where
  chain : Chain
  before : List Condition

/-- The conditions of a statement: those of the innermost open group, or of the statement if no group is open, and
the open groups from the innermost to the outermost. -/
structure Filters where
  current : List Condition := []
  enclosing : List OpenGroup := []

namespace Filters

def plug : List Condition → List OpenGroup → List Condition
  | current, [] => current
  | current, group :: enclosing => plug (group.before ++ [.group group.chain current]) enclosing

def conditions (filters : Filters) : List Condition := plug filters.current filters.enclosing

def push (filters : Filters) (condition : Condition) : Filters :=
  { filters with current := filters.current ++ [condition] }

def openGroup (filters : Filters) (chain : Chain) : Filters :=
  ⟨[], ⟨chain, filters.current⟩ :: filters.enclosing⟩

def closeGroup (filters : Filters) : Filters :=
  match filters.enclosing with
  | [] => filters
  | group :: enclosing => ⟨group.before ++ [.group group.chain filters.current], enclosing⟩

@[simp] theorem conditions_closeGroup (filters : Filters) :
    filters.closeGroup.conditions = filters.conditions := by
  rcases filters with ⟨current, _ | ⟨group, enclosing⟩⟩ <;> rfl

theorem conditions_openGroup (filters : Filters) (chain : Chain) :
    (filters.openGroup chain).conditions = (filters.push (.group chain [])).conditions := rfl

end Filters
end SqlSelect

import SqlSelect.Statement.Render
import SqlSelect.Proofs.Statement.Outline

namespace SqlSelect

theorem mapM_eq_some {α β : Type} (f : α → Option β) (g : α → β) (items : List α)
    (each : ∀ item ∈ items, f item = some (g item)) : items.mapM f = some (items.map g) := by
  induction items with
  | nil => rfl
  | cons item items ih =>
    have first := each item List.mem_cons_self
    have rest := ih fun later member => each later (List.mem_cons_of_mem _ member)
    simp only [List.mapM_cons, first, rest, Option.bind_eq_bind, Option.bind_some, Option.pure_def,
      List.map_cons]

namespace Scope

def tableText? (scope : Scope) (id : Nat) : Option String := do
  let table ← scope.tables.get? id
  let name := scope.dialect.quoteIdent table.basename
  return if table.needsAlias then name ++ " AS " ++ scope.dialect.quoteIdent table.aliasName else name

def columnTextWith? (scope : Scope) (qualified : Bool) (column : Column) : Option String :=
  if !Text.isPlainIdentifier column.name then some column.name
  else if qualified then do
    let table ← scope.tables.get? column.table
    return scope.dialect.qualifyColumn table.aliasName column.name
  else some (scope.dialect.quoteIdent column.name)

def columnText? (scope : Scope) (column : Column) : Option String :=
  scope.columnTextWith? scope.qualified column

def entryText? (scope : Scope) (column : Column) : Option String := do
  let text ← scope.columnText? column
  return column.aliasName.elim text (text ++ " AS " ++ scope.dialect.quoteIdent ·)

def columnsText? (scope : Scope) : List Column → Option String
  | [] => some " *"
  | columns => do
    let entries ← columns.mapM scope.entryText?
    return " " ++ ", ".intercalate entries

def baseText? (scope : Scope) : Option Nat → Option String
  | none => some ""
  | some id => do
    let table ← scope.tableText? id
    return " FROM " ++ table

def jointText? (scope : Scope) (joint : Joint) : Option String := do
  let table ← scope.tableText? joint.table
  let left ← scope.columnText? joint.left
  let right ← scope.columnText? joint.right
  return " JOIN " ++ table ++ " ON " ++ left ++ " = " ++ right

def jointsText? (scope : Scope) (joints : List Joint) : Option String := do
  let texts ← joints.mapM scope.jointText?
  return String.join texts

def simpleText? (scope : Scope) (column : Column) (operator : Operator) (value : Json) : Option String := do
  let text ← scope.columnText? column
  return text ++ " " ++ operator.sql ++ " " ++ scope.operandText operator value

mutual
/-- The inner option is that of a group in which nothing renders. -/
def conditionText? (scope : Scope) : Condition → Option (Option String)
  | .simple _ column operator value => do
    let text ← scope.simpleText? column operator value
    return some text
  | .group _ conditions => do
    let texts ← conditionTexts? scope conditions
    return (chained texts).map fun inner => "(" ++ inner ++ ")"

def conditionTexts? (scope : Scope) : List Condition → Option (List (Chain × String))
  | [] => some []
  | condition :: conditions => do
    let text ← conditionText? scope condition
    let texts ← conditionTexts? scope conditions
    return text.elim texts fun written => (condition.chain, written) :: texts
end

def conditionsText? (scope : Scope) (conditions : List Condition) : Option String := do
  let texts ← scope.conditionTexts? conditions
  return (chained texts).elim "" (" WHERE " ++ ·)

def groupingText? (scope : Scope) : Option Column → Option String
  | none => some ""
  | some column => do
    let text ← scope.columnTextWith? true column
    return " GROUP BY " ++ text

variable (scope : Scope)

theorem tableText?_eq_some (id : Nat) (known : id < scope.tables.size) :
    scope.tableText? id = some (scope.tableText id) := by
  rw [tableText?, scope.tables.get?_of_lt id known]
  rfl

theorem columnTextWith?_eq_some (qualified : Bool) (column : Column) (known : column.table < scope.tables.size) :
    scope.columnTextWith? qualified column = some (scope.columnTextWith qualified column) := by
  unfold columnTextWith? columnTextWith
  rw [scope.tables.get?_of_lt column.table known]
  split
  · rfl
  · split
    · rfl
    · rfl

theorem columnText?_eq_some (column : Column) (known : column.table < scope.tables.size) :
    scope.columnText? column = some (scope.columnText column) :=
  scope.columnTextWith?_eq_some scope.qualified column known

theorem entryText?_eq_some (column : Column) (known : column.table < scope.tables.size) :
    scope.entryText? column = some (scope.entryText column) := by
  rw [entryText?, scope.columnText?_eq_some column known, entryText]
  cases column.aliasName with
  | none => rfl
  | some aliasName => rfl

theorem columnsText?_eq_some (columns : List Column) (known : ∀ column ∈ columns, column.table < scope.tables.size) :
    scope.columnsText? columns = some (scope.columnsText columns) := by
  cases columns with
  | nil => rfl
  | cons column columns =>
    have entries := mapM_eq_some scope.entryText? scope.entryText (column :: columns)
      fun entry member => scope.entryText?_eq_some entry (known entry member)
    rw [columnsText?, columnsText, entries]
    · rfl
    · simp
    · simp

theorem baseText?_eq_some (base : Option Nat) (known : ∀ id, base = some id → id < scope.tables.size) :
    scope.baseText? base = some (scope.baseText base) := by
  cases base with
  | none => rfl
  | some id =>
    rw [baseText?, scope.tableText?_eq_some id (known id rfl)]
    rfl

theorem jointText?_eq_some (joint : Joint) (target : joint.table < scope.tables.size)
    (left : joint.left.table < scope.tables.size) (right : joint.right.table < scope.tables.size) :
    scope.jointText? joint = some (scope.jointText joint) := by
  rw [jointText?, scope.tableText?_eq_some joint.table target, scope.columnText?_eq_some joint.left left,
    scope.columnText?_eq_some joint.right right]
  rfl

theorem jointsText?_eq_some (joints : List Joint) (known : ∀ joint ∈ joints, joint.table < scope.tables.size ∧
      joint.left.table < scope.tables.size ∧ joint.right.table < scope.tables.size) :
    scope.jointsText? joints = some (scope.jointsText joints) := by
  have texts := mapM_eq_some scope.jointText? scope.jointText joints fun joint member =>
    have ⟨target, left, right⟩ := known joint member
    scope.jointText?_eq_some joint target left right
  rw [jointsText?, texts]
  rfl

theorem simpleText?_eq_some (column : Column) (operator : Operator) (value : Json)
    (known : column.table < scope.tables.size) :
    scope.simpleText? column operator value = some (scope.simpleText column operator value) := by
  rw [simpleText?, scope.columnText?_eq_some column known]
  rfl

mutual
theorem conditionText?_eq_some : ∀ condition : Condition,
    (∀ comparison ∈ condition.comparisons, comparison.column.table < scope.tables.size) →
    scope.conditionText? condition = some (scope.conditionText condition)
  | .simple chain column operator value, known => by
    have single := known ⟨chain, column, operator, value⟩ (by simp [Condition.comparisons])
    rw [conditionText?, scope.simpleText?_eq_some column operator value single]
    rfl
  | .group chain conditions, known => by
    rw [Condition.comparisons] at known
    rw [conditionText?, conditionTexts?_eq_some conditions known, conditionText, Option.bind_eq_bind, Option.bind_some]
    cases chained (scope.conditionTexts conditions) with
    | none => rfl
    | some inner => rfl

theorem conditionTexts?_eq_some : ∀ conditions : List Condition,
    (∀ comparison ∈ Condition.comparisonsOf conditions, comparison.column.table < scope.tables.size) →
    scope.conditionTexts? conditions = some (scope.conditionTexts conditions)
  | [], _ => rfl
  | condition :: conditions, known => by
    rw [Condition.comparisonsOf] at known
    have first := conditionText?_eq_some condition fun comparison member =>
      known comparison (List.mem_append_left _ member)
    have rest := conditionTexts?_eq_some conditions fun comparison member =>
      known comparison (List.mem_append_right _ member)
    rw [conditionTexts?, first, rest, conditionTexts]
    cases scope.conditionText condition with
    | none => rfl
    | some text => rfl
end

theorem conditionsText?_eq_some (conditions : List Condition)
    (known : ∀ comparison ∈ Condition.comparisonsOf conditions, comparison.column.table < scope.tables.size) :
    scope.conditionsText? conditions = some (scope.conditionsText conditions) := by
  rw [conditionsText?, scope.conditionTexts?_eq_some conditions known, conditionsText, Option.bind_eq_bind,
    Option.bind_some]
  cases chained (scope.conditionTexts conditions) with
  | none => rfl
  | some text => rfl

theorem groupingText?_eq_some (grouping : Option Column)
    (known : ∀ column, grouping = some column → column.table < scope.tables.size) :
    scope.groupingText? grouping = some (scope.groupingText grouping) := by
  cases grouping with
  | none => rfl
  | some column =>
    rw [groupingText?, scope.columnTextWith?_eq_some true column (known column rfl)]
    rfl

end Scope

namespace Statement

def render? (statement : Statement) (dialect : Dialect) (qualify : Qualify) : Option String := do
  let scope := Scope.of dialect qualify statement.tables
  let columns ← scope.columnsText? statement.columns
  let base ← scope.baseText? statement.base
  let joints ← scope.jointsText? statement.joints
  let conditions ← scope.conditionsText? statement.conditions
  let grouping ← scope.groupingText? statement.grouping
  return statement.operation.keywords ++ columns ++ base ++ joints ++ conditions ++ grouping

theorem render?_eq_some (statement : Statement) (dialect : Dialect) (qualify : Qualify)
    (base : ∀ id, statement.base = some id → id < statement.tables.size)
    (joined : ∀ joint ∈ statement.joints, joint.table < statement.tables.size)
    (owners : ∀ column ∈ statement.references, column.table < statement.tables.size) :
    statement.render? dialect qualify = some (statement.render dialect qualify) := by
  obtain ⟨columns, sides, compared, grouped⟩ := statement.forall_references _ owners
  let scope := Scope.of dialect qualify statement.tables
  have joints := scope.jointsText?_eq_some statement.joints fun joint member =>
    ⟨joined joint member, sides joint member⟩
  rw [render?, scope.columnsText?_eq_some statement.columns columns, scope.baseText?_eq_some statement.base base,
    joints, scope.conditionsText?_eq_some statement.conditions compared,
    scope.groupingText?_eq_some statement.grouping grouped, render_eq]
  rfl

end Statement
end SqlSelect

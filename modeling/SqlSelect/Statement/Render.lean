import SqlSelect.Statement
import SqlSelect.Dialect

namespace SqlSelect

inductive Qualify where
  | auto | always | never
  deriving DecidableEq, Repr, Inhabited

inductive Clause where
  | columns | base | joints | conditions | grouping
  deriving DecidableEq, Repr

def Operation.clauses : Operation → List Clause
  | .select _ => [.columns, .base, .joints, .conditions, .grouping]

structure Scope where
  dialect : Dialect
  tables : Registry
  qualified : Bool

namespace Scope

def of (dialect : Dialect) (qualify : Qualify) (tables : Registry) : Scope :=
  ⟨dialect, tables, match qualify with
    | .auto => decide (1 < tables.size)
    | .always => true
    | .never => false⟩

def tableText (scope : Scope) (id : Nat) : String :=
  let table := scope.tables.table id
  let name := scope.dialect.quoteIdent table.basename
  if table.needsAlias then name ++ " AS " ++ scope.dialect.quoteIdent table.aliasName else name

/-- A column, with the alias of its table if `qualified`. What is not a plain identifier, such as `*` or an
expression, stands as it is. -/
def columnTextWith (scope : Scope) (qualified : Bool) (column : Column) : String :=
  if !Text.isPlainIdentifier column.name then column.name
  else if qualified then
    scope.dialect.qualifyColumn (scope.tables.table column.table).aliasName column.name
  else scope.dialect.quoteIdent column.name

def columnText (scope : Scope) (column : Column) : String :=
  scope.columnTextWith scope.qualified column

def operandText (scope : Scope) (operator : Operator) (value : Json) : String :=
  let literal := scope.dialect.renderLiteral value
  if operator.takesList then "(" ++ literal ++ ")" else literal

def entryText (scope : Scope) (column : Column) : String :=
  match column.aliasName with
  | none => scope.columnText column
  | some aliasName => scope.columnText column ++ " AS " ++ scope.dialect.quoteIdent aliasName

def columnsText (scope : Scope) : List Column → String
  | [] => " *"
  | columns => " " ++ ", ".intercalate (columns.map scope.entryText)

def baseText (scope : Scope) : Option Nat → String
  | none => ""
  | some id => " FROM " ++ scope.tableText id

def jointText (scope : Scope) (joint : Joint) : String :=
  " JOIN " ++ scope.tableText joint.table ++ " ON " ++ scope.columnText joint.left ++ " = " ++
    scope.columnText joint.right

def jointsText (scope : Scope) (joints : List Joint) : String :=
  String.join (joints.map scope.jointText)

def simpleText (scope : Scope) (column : Column) (operator : Operator) (value : Json) : String :=
  scope.columnText column ++ " " ++ operator.sql ++ " " ++ scope.operandText operator value

def chained : List (Chain × String) → Option String
  | [] => none
  | (_, first) :: rest =>
    some (rest.foldl (fun text (chain, next) => text ++ " " ++ chain.keyword ++ " " ++ next) first)

theorem chained_cons (chain : Chain) (first : String) (rest : List (Chain × String)) :
    chained ((chain, first) :: rest) =
      some (rest.foldl (fun text (chain, next) => text ++ " " ++ chain.keyword ++ " " ++ next) first) :=
  rfl

mutual
/-- The text of a condition; a group in which nothing renders has none. -/
def conditionText (scope : Scope) : Condition → Option String
  | .simple _ column operator value => some (scope.simpleText column operator value)
  | .group _ conditions =>
    match chained (conditionTexts scope conditions) with
    | none => none
    | some inner => some ("(" ++ inner ++ ")")

def conditionTexts (scope : Scope) : List Condition → List (Chain × String)
  | [] => []
  | condition :: conditions =>
    match conditionText scope condition with
    | none => conditionTexts scope conditions
    | some text => (condition.chain, text) :: conditionTexts scope conditions
end

def conditionsText (scope : Scope) (conditions : List Condition) : String :=
  match chained (scope.conditionTexts conditions) with
  | none => ""
  | some text => " WHERE " ++ text

def groupingText (scope : Scope) : Option Column → String
  | none => ""
  | some column => " GROUP BY " ++ scope.columnTextWith true column

end Scope

namespace Statement

def fragment (statement : Statement) (dialect : Dialect) (qualify : Qualify) (clause : Clause) : String :=
  let scope := Scope.of dialect qualify statement.tables
  match clause with
  | .columns => scope.columnsText statement.columns
  | .base => scope.baseText statement.base
  | .joints => scope.jointsText statement.joints
  | .conditions => scope.conditionsText statement.conditions
  | .grouping => scope.groupingText statement.grouping

def render (statement : Statement) (dialect : Dialect) (qualify : Qualify) : String :=
  statement.operation.clauses.foldl
    (fun sql clause => sql ++ statement.fragment dialect qualify clause) statement.operation.keywords

theorem render_eq (statement : Statement) (dialect : Dialect) (qualify : Qualify) :
    statement.render dialect qualify =
      statement.operation.keywords ++ statement.fragment dialect qualify .columns ++
        statement.fragment dialect qualify .base ++ statement.fragment dialect qualify .joints ++
        statement.fragment dialect qualify .conditions ++ statement.fragment dialect qualify .grouping := by
  cases statement with
  | mk operation => cases operation; rfl

end Statement
end SqlSelect

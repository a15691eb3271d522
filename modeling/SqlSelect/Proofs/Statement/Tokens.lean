import SqlSelect.Proofs.Dialect.Token
import SqlSelect.Proofs.Statement.Outline
import SqlSelect.Proofs.Statement.Pruning

namespace SqlSelect

open Dialect (Writes)
open Condition (comparisonsOf prune)

def Qualify.applies (qualify : Qualify) (tables : Registry) : Bool :=
  match qualify with
  | .auto => decide (1 < tables.size)
  | .always => true
  | .never => false

theorem Scope.of_eq (dialect : Dialect) (qualify : Qualify) (tables : Registry) :
    Scope.of dialect qualify tables = ⟨dialect, tables, qualify.applies tables⟩ := by
  cases qualify <;> rfl

namespace Registry

variable (tables : Registry) (qualified : Bool)

def tableTokens (id : Nat) : List Dialect.Token :=
  let table := tables.table id
  .ident table.basename :: if table.needsAlias then [.ident table.aliasName] else []

/-- A column that is no plain identifier is copied, and not qualified. -/
def columnTokens (column : Column) : List Dialect.Token :=
  if Text.isPlainIdentifier column.name then
    (if qualified then [.ident (tables.aliasOf column.table)] else []) ++ [.ident column.name]
  else [.fixed column.name]

def entryTokens (column : Column) : List Dialect.Token :=
  tables.columnTokens qualified column ++ column.aliasName.toList.map .ident

def jointTokens (joint : Joint) : List Dialect.Token :=
  tables.tableTokens joint.table ++ tables.columnTokens qualified joint.left ++
    tables.columnTokens qualified joint.right

def comparisonTokens (comparison : Comparison) : List Dialect.Token :=
  tables.columnTokens qualified comparison.column ++ comparison.value.tokens

theorem not_mem_tableTokens (id : Nat) (text : String) : .fixed text ∉ tables.tableTokens id := by
  unfold tableTokens
  cases (tables.table id).needsAlias <;> simp

theorem mem_columnTokens (column : Column) (text : String)
    (member : .fixed text ∈ tables.columnTokens qualified column) :
    Text.isPlainIdentifier column.name = false ∧ column.name = text := by
  unfold columnTokens at member
  cases plain : Text.isPlainIdentifier column.name with
  | false => simpa [plain, eq_comm] using member
  | true => cases qualified <;> simp [plain] at member

end Registry

def Statement.shown (statement : Statement) (qualify : Qualify) : List Dialect.Token :=
  let tables := statement.tables
  let qualified := qualify.applies tables
  statement.columns.flatMap (tables.entryTokens qualified) ++ statement.base.toList.flatMap tables.tableTokens ++
    statement.joints.flatMap (tables.jointTokens qualified) ++
    (comparisonsOf statement.conditions).flatMap (tables.comparisonTokens qualified) ++
    statement.grouping.toList.flatMap (tables.columnTokens true)

theorem Operator.sql_mem_keywords (operator : Operator) : operator.sql ∈ Dialect.keywords := by
  cases operator <;> decide

theorem Chain.keyword_mem_keywords (chain : Chain) : chain.keyword ∈ Dialect.keywords := by
  cases chain <;> decide

namespace Scope

variable (tables : Registry) (qualified : Bool)

theorem writes_table (id : Nat) :
    Writes (fun dialect => (Scope.mk dialect tables qualified).tableText id) (tables.tableTokens id) := by
  have name := Writes.ident (tables.table id).basename
  simp only [tableText, Registry.tableTokens]
  cases (tables.table id).needsAlias with
  | false => exact name
  | true => exact name.around " AS " (by decide) (.ident (tables.table id).aliasName)

theorem writes_columnWith (shows : Bool) (column : Column) :
    Writes (fun dialect => (Scope.mk dialect tables qualified).columnTextWith shows column)
      (tables.columnTokens shows column) := by
  have name := Writes.ident column.name
  simp only [columnTextWith, Registry.columnTokens]
  cases Text.isPlainIdentifier column.name with
  | false => exact .token (.fixed column.name)
  | true =>
    cases shows with
    | false => exact name
    | true => exact (Writes.ident (tables.aliasOf column.table)).around "." (by decide) name

theorem writes_column (column : Column) :
    Writes (fun dialect => (Scope.mk dialect tables qualified).columnText column)
      (tables.columnTokens qualified column) :=
  writes_columnWith tables qualified qualified column

theorem writes_entry (column : Column) :
    Writes (fun dialect => (Scope.mk dialect tables qualified).entryText column)
      (tables.entryTokens qualified column) := by
  have name := writes_column tables qualified column
  simp only [entryText, Registry.entryTokens]
  cases column.aliasName with
  | none => simpa using name
  | some aliasName => exact name.around " AS " (by decide) (.ident aliasName)

theorem writes_columns (columns : List Column) :
    Writes (fun dialect => (Scope.mk dialect tables qualified).columnsText columns)
      (columns.flatMap (tables.entryTokens qualified)) := by
  cases columns with
  | nil => exact .keyword " *" (by decide)
  | cons column columns =>
    have entries := Writes.intercalate _ (tables.entryTokens qualified) (column :: columns)
      (fun column _ => writes_entry tables qualified column) ", " (by decide)
    exact entries.behind " " (by decide)

theorem writes_base (base : Option Nat) :
    Writes (fun dialect => (Scope.mk dialect tables qualified).baseText base)
      (base.toList.flatMap tables.tableTokens) := by
  cases base with
  | none => exact .nil
  | some id =>
    rw [Option.toList_some, List.flatMap_singleton]
    exact (writes_table tables qualified id).behind " FROM " (by decide)

theorem writes_joint (joint : Joint) :
    Writes (fun dialect => (Scope.mk dialect tables qualified).jointText joint)
      (tables.jointTokens qualified joint) := by
  have table := (writes_table tables qualified joint.table).behind " JOIN " (by decide)
  have left := table.around " ON " (by decide) (writes_column tables qualified joint.left)
  exact left.around " = " (by decide) (writes_column tables qualified joint.right)

theorem writes_joints (joints : List Joint) :
    Writes (fun dialect => (Scope.mk dialect tables qualified).jointsText joints)
      (joints.flatMap (tables.jointTokens qualified)) :=
  .join _ (tables.jointTokens qualified) joints fun joint _ => writes_joint tables qualified joint

theorem writes_operand (operator : Operator) (value : Json) :
    Writes (fun dialect => (Scope.mk dialect tables qualified).operandText operator value) value.tokens := by
  have literal := Dialect.writes_literal value
  simp only [operandText]
  cases operator.takesList with
  | false => exact literal
  | true => exact (literal.behind "(" (by decide)).closed ")" (by decide)

theorem writes_simple (column : Column) (operator : Operator) (value : Json) (chain : Chain) :
    Writes (fun dialect => (Scope.mk dialect tables qualified).simpleText column operator value)
      (tables.comparisonTokens qualified ⟨chain, column, operator, value⟩) := by
  have spaced := (writes_column tables qualified column).closed " " (by decide)
  have compared := spaced.closed operator.sql operator.sql_mem_keywords
  exact compared.around " " (by decide) (writes_operand tables qualified operator value)

theorem writes_link (chain : Chain) : Writes (fun _ => " " ++ chain.keyword ++ " ") [] := by
  have space := Writes.keyword " " (by decide)
  exact (space.closed chain.keyword chain.keyword_mem_keywords).closed " " (by decide)

mutual
theorem writes_full : (condition : Condition) →
    Writes (fun dialect => (Scope.mk dialect tables qualified).fullText condition)
      (condition.comparisons.flatMap (tables.comparisonTokens qualified))
  | .simple chain column operator value => by
    rw [Condition.comparisons, List.flatMap_singleton]
    exact writes_simple tables qualified column operator value chain
  | .group _ conditions => by
    have inner := (writes_list conditions).behind "(" (by decide)
    simp only [fullText]
    exact inner.closed ")" (by decide)

theorem writes_list : (conditions : List Condition) →
    Writes (fun dialect => (Scope.mk dialect tables qualified).listText conditions)
      ((comparisonsOf conditions).flatMap (tables.comparisonTokens qualified))
  | [] => .nil
  | condition :: conditions => by
    rw [comparisonsOf, List.flatMap_append]
    exact (writes_full condition).append (writes_rest conditions)

theorem writes_rest : (conditions : List Condition) →
    Writes (fun dialect => (Scope.mk dialect tables qualified).restText conditions)
      ((comparisonsOf conditions).flatMap (tables.comparisonTokens qualified))
  | [] => .nil
  | condition :: conditions => by
    rw [comparisonsOf, List.flatMap_append]
    exact ((writes_link condition.chain).append (writes_full condition)).append (writes_rest conditions)
end

theorem writes_conditions (conditions : List Condition) :
    Writes (fun dialect => (Scope.mk dialect tables qualified).conditionsText conditions)
      ((comparisonsOf conditions).flatMap (tables.comparisonTokens qualified)) := by
  by_cases empty : comparisonsOf conditions = []
  · have silent : ∀ dialect, (Scope.mk dialect tables qualified).conditionsText conditions = "" :=
      fun dialect => (Scope.conditionsText_eq_empty_iff _ conditions).mpr empty
    simp only [silent, empty]
    exact .nil
  · have written := fun dialect => (Scope.mk dialect tables qualified).conditionsText_of_filled conditions empty
    have left := (writes_list tables qualified (prune conditions)).behind " WHERE " (by decide)
    rw [Condition.comparisonsOf_prune] at left
    simp only [written]
    exact left

theorem writes_grouping (grouping : Option Column) :
    Writes (fun dialect => (Scope.mk dialect tables qualified).groupingText grouping)
      (grouping.toList.flatMap (tables.columnTokens true)) := by
  cases grouping with
  | none => exact .nil
  | some column =>
    rw [Option.toList_some, List.flatMap_singleton]
    exact (writes_columnWith tables qualified true column).behind " GROUP BY " (by decide)

end Scope

namespace Statement

theorem writes_render (statement : Statement) (qualify : Qualify) :
    Writes (fun dialect => statement.render dialect qualify) (statement.shown qualify) := by
  let qualified := qualify.applies statement.tables
  have operation : Writes (fun _ => statement.operation.keywords) [] := by
    apply Writes.keyword
    rcases statement.operation with _ | _ <;> decide
  have base := (operation.append (Scope.writes_columns statement.tables qualified statement.columns)).append
    (Scope.writes_base statement.tables qualified statement.base)
  have joined := base.append (Scope.writes_joints statement.tables qualified statement.joints)
  have filtered := joined.append (Scope.writes_conditions statement.tables qualified statement.conditions)
  have grouped := filtered.append (Scope.writes_grouping statement.tables qualified statement.grouping)
  simp only [render_eq, fragment, Scope.of_eq]
  exact grouped

/-- A fixed text that a statement shows is a number, or a column that is no plain identifier. -/
theorem fixed_shown (statement : Statement) (qualify : Qualify) (text : String)
    (member : .fixed text ∈ statement.shown qualify) :
    Json.IsNumeral text ∨
      ∃ column ∈ statement.references, Text.isPlainIdentifier column.name = false ∧ column.name = text := by
  obtain ⟨columns, joined, compared, grouped⟩ :=
    statement.forall_references (· ∈ statement.references) fun _ held => held
  have copied (column : Column) (held : column ∈ statement.references) (qualified : Bool)
      (copy : .fixed text ∈ statement.tables.columnTokens qualified column) :
      ∃ column ∈ statement.references, Text.isPlainIdentifier column.name = false ∧ column.name = text :=
    ⟨column, held, Registry.mem_columnTokens _ qualified column text copy⟩
  simp only [shown, List.mem_append, List.mem_flatMap, Option.mem_toList] at member
  obtain (((⟨column, listed, entry⟩ | ⟨id, _, table⟩) | ⟨joint, listed, parts⟩) | ⟨comparison, listed, parts⟩) |
    ⟨column, listed, entry⟩ := member
  · rcases List.mem_append.mp entry with copy | aliased
    · exact .inr (copied column (columns column listed) _ copy)
    · simp at aliased
  · exact absurd table (Registry.not_mem_tableTokens _ id text)
  · rcases List.mem_append.mp parts with front | copy
    · rcases List.mem_append.mp front with table | copy
      · exact absurd table (Registry.not_mem_tableTokens _ joint.table text)
      · exact .inr (copied joint.left (joined joint listed).1 _ copy)
    · exact .inr (copied joint.right (joined joint listed).2 _ copy)
  · rcases List.mem_append.mp parts with copy | number
    · exact .inr (copied comparison.column (compared comparison listed) _ copy)
    · exact .inl (comparison.value.numeral_of_fixed text number)
  · exact .inr (copied column (grouped column listed) _ entry)

/-- All dialects render a statement from the same tokens: those that it shows, in which every table, every alias and
every column that is a plain identifier is an identifier, and keywords. -/
theorem render_tokens (statement : Statement) (qualify : Qualify) :
    ∃ tokens, (∀ dialect, statement.render dialect qualify = dialect.spell tokens) ∧
      Dialect.Spread (statement.shown qualify) tokens ∧
      ∀ text, .fixed text ∈ tokens → text ∈ Dialect.keywords ∨ Json.IsNumeral text ∨
        ∃ column ∈ statement.references, Text.isPlainIdentifier column.name = false ∧ column.name = text := by
  obtain ⟨tokens, spelled, spread⟩ := statement.writes_render qualify
  refine ⟨tokens, spelled, spread, ?_⟩
  intro text member
  exact (spread.fixed text member).imp_right (statement.fixed_shown qualify text)

/-- The star is copied without its table, and neither the empty group nor the empty array shows. -/
example :
    let tables : Registry := ⟨[⟨"users", "users", true, false⟩, ⟨"users", "boss", false, true⟩]⟩
    let values : Json := .array [.bool true, .array [], .array [.integer 7, .text "a"]]
    let conditions : List Condition := [.group .or [], .simple .and ⟨"id", none, 1⟩ .inList values]
    let statement : Statement := ⟨.select true, some 1, [⟨"*", some "all", 0⟩], [], conditions, none, tables⟩
    statement.shown .auto = [.fixed "*", .ident "all", .ident "users", .ident "boss", .ident "boss", .ident "id",
      .boolean true, .fixed "7", .string "a"] := by decide

end Statement
end SqlSelect

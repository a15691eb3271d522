import SqlSelect.Statement.Render
import SqlSelect.Proofs.Statement.Outline
import SqlSelect.Proofs.Text.Decodable
import Mathlib.Data.List.Basic

namespace SqlSelect

open Text (quoted)

def quotedName (name : String) : List Char := quoted '\x22' name

def aliasText (aliasName : Option String) : List Char :=
  aliasName.elim [] fun name => " AS ".toList ++ quotedName name

def Label.text (label : Label (Option String)) : List Char :=
  label.owner.elim [] (fun owner => quotedName owner ++ ".".toList) ++ quotedName label.name

def TableName.written (table : TableName) : Option String :=
  if table.aliasName = table.basename then none else some table.aliasName

def TableName.text (table : TableName) : List Char := quotedName table.basename ++ aliasText table.written

def entryText (entry : Label (Option String) × Option String) : List Char := entry.1.text ++ aliasText entry.2

def entriesText : List (Label (Option String) × Option String) → List Char
  | [] => " *".toList
  | entry :: entries => " ".toList ++ entryText entry ++ entries.flatMap (", ".toList ++ entryText ·)

def JointOutline.text (joint : JointOutline (Option String)) : List Char :=
  joint.table.text ++ " ON ".toList ++ joint.left.text ++ " = ".toList ++ joint.right.text

def literalText (value : Json) : List Char := (Dialect.ansi.renderLiteral value).toList

def operandText (operator : Operator) (value : Json) : List Char :=
  if operator.takesList then "(".toList ++ literalText value ++ ")".toList else literalText value

def Chain.link (chain : Chain) : String := " " ++ chain.keyword ++ " "

mutual
def Filter.text : Filter (Option String) → List Char
  | .comparison column operator value =>
    column.text ++ " ".toList ++ operator.sql.toList ++ " ".toList ++ operandText operator value
  | .group first others => "(".toList ++ first.text ++ Filter.othersText others ++ ")".toList

def Filter.othersText : List (Chain × Filter (Option String)) → List Char
  | [] => []
  | (chain, filter) :: others => chain.link.toList ++ filter.text ++ Filter.othersText others
end

def filtersText (filters : Filter (Option String) × List (Chain × Filter (Option String))) : List Char :=
  filters.1.text ++ Filter.othersText filters.2

def Outline.text (outline : Outline (Option String)) : List Char :=
  outline.operation.keywords.toList ++ entriesText outline.entries ++
    outline.base.elim [] (" FROM ".toList ++ TableName.text ·) ++
    outline.joints.flatMap (" JOIN ".toList ++ JointOutline.text ·) ++
    outline.filters.elim [] (" WHERE ".toList ++ filtersText ·) ++
    outline.grouping.elim [] (fun column => " GROUP BY ".toList ++ (column.map some).text)

namespace Scope

def shown (scope : Scope) (id : Nat) : Option String :=
  if scope.qualified then some (scope.tables.aliasOf id) else none

variable (qualify : Qualify) (tables : Registry)

theorem toList_quoteIdent (name : String) : (Dialect.ansi.quoteIdent name).toList = quotedName name :=
  Text.toList_enclose _ _

theorem toList_columnTextWith (scope : Scope) (ansi : scope.dialect = .ansi) (qualified : Bool) (column : Column)
    (plain : Text.isPlainIdentifier column.name = true) :
    (scope.columnTextWith qualified column).toList =
      (Label.text ⟨if qualified then some (scope.tables.aliasOf column.table) else none, column.name⟩) := by
  unfold columnTextWith
  rw [plain, ansi]
  cases qualified with
  | false => exact toList_quoteIdent column.name
  | true =>
    simp only [Bool.not_true, Bool.false_eq_true, if_false, if_true, Dialect.qualifyColumn, Label.text,
      Option.elim_some, String.toList_append, toList_quoteIdent, Registry.aliasOf]

theorem toList_columnText (scope : Scope) (ansi : scope.dialect = .ansi) (column : Column)
    (plain : Text.isPlainIdentifier column.name = true) :
    (scope.columnText column).toList = (column.label scope.shown).text :=
  scope.toList_columnTextWith ansi scope.qualified column plain

theorem toList_tableText (scope : Scope) (ansi : scope.dialect = .ansi) (id : Nat) :
    (scope.tableText id).toList = (scope.tables.tableName id).text := by
  simp only [tableText, TableName.text, TableName.written, Registry.tableName, Table.needsAlias, ansi, bne_iff_ne]
  by_cases same : (scope.tables.table id).aliasName = (scope.tables.table id).basename
  · simp [same, aliasText, toList_quoteIdent]
  · simp [same, aliasText, toList_quoteIdent]

theorem toList_entryText (scope : Scope) (ansi : scope.dialect = .ansi) (column : Column)
    (plain : Text.isPlainIdentifier column.name = true) :
    (scope.entryText column).toList = SqlSelect.entryText (column.label scope.shown, column.aliasName) := by
  unfold entryText SqlSelect.entryText
  rw [← scope.toList_columnText ansi column plain]
  cases column.aliasName with
  | none => simp [aliasText]
  | some aliasName => simp [aliasText, ansi, toList_quoteIdent]

theorem toList_intercalate_cons (mark first : String) (others : List String) :
    (mark.intercalate (first :: others)).toList =
      first.toList ++ others.flatMap fun other => mark.toList ++ other.toList := by
  induction others generalizing first with
  | nil => rw [String.intercalate_singleton, List.flatMap_nil, List.append_nil]
  | cons other others ih =>
    rw [String.intercalate_cons_cons, String.toList_append, String.toList_append, ih, List.flatMap_cons]
    simp only [List.append_assoc]

theorem toList_columnsText (scope : Scope) (ansi : scope.dialect = .ansi) (columns : List Column)
    (plain : ∀ column ∈ columns, Text.isPlainIdentifier column.name = true) :
    (scope.columnsText columns).toList =
      entriesText (columns.map fun column => (column.label scope.shown, column.aliasName)) := by
  cases columns with
  | nil => rfl
  | cons column columns =>
    have first := scope.toList_entryText ansi column (plain column List.mem_cons_self)
    rw [columnsText, String.toList_append, List.map_cons, toList_intercalate_cons, first]
    rw [List.map_cons, entriesText, List.append_assoc, List.flatMap_map, List.flatMap_map]
    · congr 2
      apply List.flatMap_congr
      intro later member
      rw [scope.toList_entryText ansi later (plain later (List.mem_cons_of_mem _ member))]
    · simp

theorem toList_baseText (scope : Scope) (ansi : scope.dialect = .ansi) (base : Option Nat) :
    (scope.baseText base).toList =
      (base.map scope.tables.tableName).elim [] (" FROM ".toList ++ TableName.text ·) := by
  cases base with
  | none => rfl
  | some id => rw [baseText, String.toList_append, scope.toList_tableText ansi]; rfl

theorem toList_jointText (scope : Scope) (ansi : scope.dialect = .ansi) (joint : Joint)
    (left : Text.isPlainIdentifier joint.left.name = true)
    (right : Text.isPlainIdentifier joint.right.name = true) :
    (scope.jointText joint).toList = " JOIN ".toList ++ JointOutline.text
      ⟨scope.tables.tableName joint.table, joint.left.label scope.shown, joint.right.label scope.shown⟩ := by
  simp only [jointText, JointOutline.text, String.toList_append, List.append_assoc, scope.toList_tableText ansi,
    scope.toList_columnText ansi joint.left left, scope.toList_columnText ansi joint.right right]

theorem toList_jointsText (scope : Scope) (ansi : scope.dialect = .ansi) (joints : List Joint)
    (plain : ∀ joint ∈ joints, Text.isPlainIdentifier joint.left.name = true ∧
      Text.isPlainIdentifier joint.right.name = true) :
    (scope.jointsText joints).toList =
      (joints.map fun joint => (⟨scope.tables.tableName joint.table, joint.left.label scope.shown,
        joint.right.label scope.shown⟩ : JointOutline (Option String))).flatMap
          (" JOIN ".toList ++ JointOutline.text ·) := by
  rw [jointsText, String.toList_join, List.flatMap_map, List.flatMap_map]
  apply List.flatMap_congr
  intro joint member
  exact scope.toList_jointText ansi joint (plain joint member).1 (plain joint member).2

theorem toList_operandText (scope : Scope) (ansi : scope.dialect = .ansi) (operator : Operator) (value : Json) :
    (scope.operandText operator value).toList = SqlSelect.operandText operator value := by
  rw [operandText, SqlSelect.operandText, ansi]
  cases operator.takesList with
  | false => rfl
  | true => simp [literalText]

theorem toList_simpleText (scope : Scope) (ansi : scope.dialect = .ansi) (column : Column) (operator : Operator)
    (value : Json) (plain : Text.isPlainIdentifier column.name = true) :
    (scope.simpleText column operator value).toList =
      (Filter.comparison (column.label scope.shown) operator value).text := by
  rw [simpleText, Filter.text]
  simp only [String.toList_append, scope.toList_columnText ansi column plain, scope.toList_operandText ansi]

theorem chained_cons_cons (chain link : Chain) (first second : String) (rest : List (Chain × String)) :
    chained ((chain, first) :: (link, second) :: rest) =
      chained ((chain, first ++ " " ++ link.keyword ++ " " ++ second) :: rest) := rfl

theorem toList_chained_cons (chain : Chain) (first : String) (others : List (Chain × Filter (Option String))) :
    (chained ((chain, first) :: others.map fun entry => (entry.1, String.ofList entry.2.text))).map String.toList =
      some (first.toList ++ Filter.othersText others) := by
  induction others generalizing first with
  | nil =>
    rw [Filter.othersText, List.append_nil]
    rfl
  | cons other others ih =>
    rw [List.map_cons, chained_cons_cons, ih, Filter.othersText, Chain.link]
    simp only [String.toList_append, String.toList_ofList, List.append_assoc]

theorem toList_chained (filters : List (Chain × Filter (Option String))) :
    (chained (filters.map fun entry => (entry.1, String.ofList entry.2.text))).map String.toList =
      (Filter.headed filters).map filtersText := by
  rcases filters with _ | ⟨⟨chain, first⟩, others⟩
  · rfl
  · rw [List.map_cons, toList_chained_cons, String.toList_ofList]
    rfl

mutual
theorem conditionText_eq (scope : Scope) (ansi : scope.dialect = .ansi) :
    ∀ condition : Condition,
      (∀ comparison ∈ condition.comparisons, Text.isPlainIdentifier comparison.column.name = true) →
      scope.conditionText condition =
        (condition.filter? scope.shown).map fun filter => String.ofList filter.text
  | .simple chain column operator value, plain => by
    have single := plain ⟨chain, column, operator, value⟩ (by simp [Condition.comparisons])
    rw [conditionText, Condition.filter?, Option.map_some, ← scope.toList_simpleText ansi column operator value single,
      String.ofList_toList]
  | .group chain conditions, plain => by
    rw [Condition.comparisons] at plain
    have inner := toList_chained (Condition.filters scope.shown conditions)
    rw [← conditionTexts_eq scope ansi conditions plain] at inner
    rw [conditionText, Condition.filter?]
    cases headed : Filter.headed (Condition.filters scope.shown conditions) with
    | none =>
      rw [headed, Option.map_none, Option.map_eq_none_iff] at inner
      rw [inner]
      rfl
    | some filters =>
      rw [headed, Option.map_some, Option.map_eq_some_iff] at inner
      obtain ⟨text, chained, written⟩ := inner
      rw [chained, Option.map_some, Option.map_some, Option.some.injEq, ← String.toList_inj]
      simp only [String.toList_append, String.toList_ofList, Filter.text, written, filtersText, List.append_assoc]

theorem conditionTexts_eq (scope : Scope) (ansi : scope.dialect = .ansi) :
    ∀ conditions : List Condition,
      (∀ comparison ∈ Condition.comparisonsOf conditions,
        Text.isPlainIdentifier comparison.column.name = true) →
      scope.conditionTexts conditions =
        (Condition.filters scope.shown conditions).map fun entry => (entry.1, String.ofList entry.2.text)
  | [], _ => rfl
  | condition :: conditions, plain => by
    rw [Condition.comparisonsOf] at plain
    have first := conditionText_eq scope ansi condition fun comparison member =>
      plain comparison (List.mem_append_left _ member)
    have rest := conditionTexts_eq scope ansi conditions fun comparison member =>
      plain comparison (List.mem_append_right _ member)
    rw [conditionTexts, Condition.filters, first, rest]
    cases condition.filter? scope.shown with
    | none => rfl
    | some filter => rfl
end

theorem toList_conditionsText (scope : Scope) (ansi : scope.dialect = .ansi) (conditions : List Condition)
    (plain : ∀ comparison ∈ Condition.comparisonsOf conditions,
      Text.isPlainIdentifier comparison.column.name = true) :
    (scope.conditionsText conditions).toList =
      (Filter.headed (Condition.filters scope.shown conditions)).elim [] (" WHERE ".toList ++ filtersText ·) := by
  have inner := toList_chained (Condition.filters scope.shown conditions)
  rw [← scope.conditionTexts_eq ansi conditions plain] at inner
  rw [conditionsText]
  cases headed : Filter.headed (Condition.filters scope.shown conditions) with
  | none =>
    rw [headed, Option.map_none, Option.map_eq_none_iff] at inner
    rw [inner]
    rfl
  | some filters =>
    rw [headed, Option.map_some, Option.map_eq_some_iff] at inner
    obtain ⟨text, chained, written⟩ := inner
    rw [chained, Option.elim_some, ← written, ← String.toList_append]

theorem toList_groupingText (scope : Scope) (ansi : scope.dialect = .ansi) (grouping : Option Column)
    (plain : ∀ column, grouping = some column → Text.isPlainIdentifier column.name = true) :
    (scope.groupingText grouping).toList =
      (grouping.map (Column.label scope.tables.aliasOf)).elim []
        (fun column => " GROUP BY ".toList ++ (column.map some).text) := by
  cases grouping with
  | none => rfl
  | some column =>
    rw [groupingText, String.toList_append, scope.toList_columnTextWith ansi true column (plain column rfl)]
    rfl

end Scope

theorem Statement.render_eq_text (statement : Statement) (qualify : Qualify)
    (plain : ∀ column ∈ statement.references, Text.isPlainIdentifier column.name = true) :
    (statement.render .ansi qualify).toList =
      (statement.outlineWith (Scope.of .ansi qualify statement.tables).shown).text := by
  have ansi : (Scope.of .ansi qualify statement.tables).dialect = .ansi := rfl
  obtain ⟨columns, joined, compared, grouped⟩ := statement.forall_references _ plain
  rw [render_eq, Outline.text]
  simp only [String.toList_append, fragment]
  rw [Scope.toList_columnsText _ ansi _ columns, Scope.toList_baseText _ ansi,
    Scope.toList_jointsText _ ansi _ joined, Scope.toList_conditionsText _ ansi _ compared,
    Scope.toList_groupingText _ ansi _ grouped]
  rfl

end SqlSelect

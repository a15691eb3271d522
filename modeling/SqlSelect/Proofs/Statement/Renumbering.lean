import SqlSelect.Statement.Render
import SqlSelect.Proofs.Registry.Renumbering

namespace SqlSelect

def Column.renumber (f : Nat → Nat) (column : Column) : Column := { column with table := f column.table }

def Joint.renumber (f : Nat → Nat) (joint : Joint) : Joint :=
  ⟨f joint.table, joint.left.renumber f, joint.right.renumber f⟩

mutual
def Condition.renumber (f : Nat → Nat) : Condition → Condition
  | .simple chain column operator value => .simple chain (column.renumber f) operator value
  | .group chain conditions => .group chain (Condition.renumberAll f conditions)

def Condition.renumberAll (f : Nat → Nat) : List Condition → List Condition
  | [] => []
  | condition :: conditions => condition.renumber f :: Condition.renumberAll f conditions
end

theorem Condition.renumberAll_append (f : Nat → Nat) (left right : List Condition) :
    renumberAll f (left ++ right) = renumberAll f left ++ renumberAll f right := by
  induction left with
  | nil => rfl
  | cons condition left ih => rw [List.cons_append, renumberAll, renumberAll, ih, List.cons_append]

@[simp] theorem Condition.chain_renumber (f : Nat → Nat) (condition : Condition) :
    (condition.renumber f).chain = condition.chain := by
  cases condition with
  | simple chain column operator value => rfl
  | group chain conditions => rfl

def OpenGroup.renumber (f : Nat → Nat) (group : OpenGroup) : OpenGroup :=
  ⟨group.chain, Condition.renumberAll f group.before⟩

namespace Filters

open Condition (renumberAll renumberAll_append)

def renumber (f : Nat → Nat) (filters : Filters) : Filters :=
  ⟨renumberAll f filters.current, filters.enclosing.map (OpenGroup.renumber f)⟩

theorem renumber_push (f : Nat → Nat) (filters : Filters) (condition : Condition) :
    (filters.push condition).renumber f = (filters.renumber f).push (condition.renumber f) := by
  rw [push, push, renumber, renumber, renumberAll_append, renumberAll, renumberAll]

theorem renumber_openGroup (f : Nat → Nat) (filters : Filters) (chain : Chain) :
    (filters.openGroup chain).renumber f = (filters.renumber f).openGroup chain := rfl

theorem renumber_closeGroup (f : Nat → Nat) (filters : Filters) :
    filters.closeGroup.renumber f = (filters.renumber f).closeGroup := by
  obtain ⟨current, _ | ⟨group, enclosing⟩⟩ := filters
  · rfl
  · simp only [closeGroup, renumber, List.map_cons, OpenGroup.renumber, renumberAll_append]
    rw [renumberAll, renumberAll, Condition.renumber]

theorem plug_renumber (f : Nat → Nat) (current : List Condition) (enclosing : List OpenGroup) :
    plug (renumberAll f current) (enclosing.map (OpenGroup.renumber f)) = renumberAll f (plug current enclosing) := by
  induction enclosing generalizing current with
  | nil => rfl
  | cons group enclosing ih =>
    rw [List.map_cons, plug, plug, ← ih, renumberAll_append]
    rfl

theorem conditions_renumber (f : Nat → Nat) (filters : Filters) :
    (filters.renumber f).conditions = renumberAll f filters.conditions :=
  plug_renumber f filters.current filters.enclosing

end Filters

def Statement.renumber (f : Nat → Nat) (target : Registry) (statement : Statement) : Statement :=
  ⟨statement.operation, statement.base.map f, statement.columns.map (Column.renumber f),
    statement.joints.map (Joint.renumber f), Condition.renumberAll f statement.conditions,
    statement.grouping.map (Column.renumber f), target⟩

namespace Scope

variable (scope : Scope) (f : Nat → Nat) (target : Registry)

def onto (scope : Scope) (target : Registry) : Scope := { scope with tables := target }

variable (names : Registry.SameNames f scope.tables target)

include names

theorem tableText_onto (id : Nat) : (scope.onto target).tableText (f id) = scope.tableText id := by
  have aliases := names.aliasName id
  have basenames := names.basename id
  have needs : (target.table (f id)).needsAlias = (scope.tables.table id).needsAlias := by
    rw [Table.needsAlias, Table.needsAlias, aliases, basenames]
  simp only [tableText, onto, needs, aliases, basenames]

theorem columnTextWith_onto (qualified : Bool) (column : Column) :
    (scope.onto target).columnTextWith qualified (column.renumber f) = scope.columnTextWith qualified column := by
  have aliases := names.aliasName column.table
  simp only [columnTextWith, onto, Column.renumber, aliases]

theorem columnText_onto (column : Column) :
    (scope.onto target).columnText (column.renumber f) = scope.columnText column :=
  scope.columnTextWith_onto f target names scope.qualified column

theorem entryText_onto (column : Column) :
    (scope.onto target).entryText (column.renumber f) = scope.entryText column := by
  have text := scope.columnText_onto f target names column
  simp only [entryText, text]
  rfl

theorem columnsText_onto (columns : List Column) :
    (scope.onto target).columnsText (columns.map (Column.renumber f)) = scope.columnsText columns := by
  cases columns with
  | nil => rfl
  | cons column columns =>
    have entries : ((column :: columns).map (Column.renumber f)).map (scope.onto target).entryText =
        (column :: columns).map scope.entryText := by
      rw [List.map_map]
      exact List.map_congr_left fun entry _ => scope.entryText_onto f target names entry
    rw [List.map_cons] at entries ⊢
    rw [columnsText, columnsText, entries]
    all_goals simp

theorem baseText_onto (base : Option Nat) : (scope.onto target).baseText (base.map f) = scope.baseText base := by
  cases base with
  | none => rfl
  | some id => simp only [Option.map_some, baseText, scope.tableText_onto f target names id]

theorem jointText_onto (joint : Joint) : (scope.onto target).jointText (joint.renumber f) = scope.jointText joint := by
  have column := scope.columnText_onto f target names
  simp only [jointText, Joint.renumber, scope.tableText_onto f target names joint.table, column]

theorem jointsText_onto (joints : List Joint) :
    (scope.onto target).jointsText (joints.map (Joint.renumber f)) = scope.jointsText joints := by
  have texts : (joints.map (Joint.renumber f)).map (scope.onto target).jointText = joints.map scope.jointText := by
    rw [List.map_map]
    exact List.map_congr_left fun joint _ => scope.jointText_onto f target names joint
  rw [jointsText, jointsText, texts]

omit names in
mutual
theorem conditionText_onto (names : Registry.SameNames f scope.tables target) : (condition : Condition) →
    (scope.onto target).conditionText (condition.renumber f) = scope.conditionText condition
  | .simple chain column operator value => by
    simp only [Condition.renumber, conditionText, simpleText, scope.columnText_onto f target names column]
    rfl
  | .group chain conditions => by
    rw [Condition.renumber, conditionText, conditionText, conditionTexts_onto names conditions]

theorem conditionTexts_onto (names : Registry.SameNames f scope.tables target) : (conditions : List Condition) →
    (scope.onto target).conditionTexts (Condition.renumberAll f conditions) = scope.conditionTexts conditions
  | [] => by
    rw [Condition.renumberAll, conditionTexts, conditionTexts]
  | condition :: conditions => by
    rw [Condition.renumberAll, conditionTexts, conditionTexts, conditionText_onto names condition,
      conditionTexts_onto names conditions, Condition.chain_renumber]
end

theorem conditionsText_onto (conditions : List Condition) :
    (scope.onto target).conditionsText (Condition.renumberAll f conditions) = scope.conditionsText conditions := by
  rw [conditionsText, conditionsText, scope.conditionTexts_onto f target names conditions]

theorem groupingText_onto (grouping : Option Column) :
    (scope.onto target).groupingText (grouping.map (Column.renumber f)) = scope.groupingText grouping := by
  cases grouping with
  | none => rfl
  | some column =>
    simp only [Option.map_some, groupingText, scope.columnTextWith_onto f target names true column]

end Scope

theorem Scope.of_onto (dialect : Dialect) (qualify : Qualify) (f : Nat → Nat) (source target : Registry)
    (renumbers : Registry.Renumbers f source target) :
    Scope.of dialect qualify target = (Scope.of dialect qualify source).onto target := by
  simp only [Scope.of, Scope.onto, renumbers.size]

namespace Statement

theorem fragment_renumber (statement : Statement) (f : Nat → Nat) (target : Registry)
    (renumbers : Registry.Renumbers f statement.tables target) (dialect : Dialect) (qualify : Qualify)
    (clause : Clause) :
    (statement.renumber f target).fragment dialect qualify clause = statement.fragment dialect qualify clause := by
  have written := Scope.of_onto dialect qualify f statement.tables target renumbers
  have names := renumbers.sameNames
  have columns := (Scope.of dialect qualify statement.tables).columnsText_onto f target names statement.columns
  have base := (Scope.of dialect qualify statement.tables).baseText_onto f target names statement.base
  have joints := (Scope.of dialect qualify statement.tables).jointsText_onto f target names statement.joints
  have conditions :=
    (Scope.of dialect qualify statement.tables).conditionsText_onto f target names statement.conditions
  have grouping := (Scope.of dialect qualify statement.tables).groupingText_onto f target names statement.grouping
  rw [← written] at columns base joints conditions grouping
  cases clause with
  | columns => exact columns
  | base => exact base
  | joints => exact joints
  | conditions => exact conditions
  | grouping => exact grouping

theorem render_renumber (statement : Statement) (f : Nat → Nat) (target : Registry)
    (renumbers : Registry.Renumbers f statement.tables target) (dialect : Dialect) (qualify : Qualify) :
    (statement.renumber f target).render dialect qualify = statement.render dialect qualify := by
  have fragments := statement.fragment_renumber f target renumbers dialect qualify
  simp only [render_eq, fragments]
  rfl

end Statement
end SqlSelect

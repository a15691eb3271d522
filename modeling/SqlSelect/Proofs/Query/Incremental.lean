import SqlSelect.Proofs.Query.Growth
import SqlSelect.Proofs.Query.Grouping
import SqlSelect.Proofs.Query.Order
import SqlSelect.Proofs.Query.SelectList
import SqlSelect.Proofs.Statement.Appending
import SqlSelect.Proofs.Statement.Extension

namespace SqlSelect

def Call.Kind.clause : Call.Kind → Clause
  | .selection => .columns
  | .filtering => .conditions
  | .joining => .joints
  | .grouping => .grouping

def Call.clause? (call : Call) : Option Clause := call.kind?.map Kind.clause

theorem Bracketed.clause? (calls : List Call) (bracketed : Bracketed calls) (call : Call) (member : call ∈ calls) :
    call.clause? = some .conditions := by
  induction bracketed with
  | nil => cases member
  | filter chain reference operator value calls rest ih =>
    rcases List.mem_cons.mp member with rfl | member
    · rfl
    · exact ih member
  | group chain inner calls inside rest ihInner ihRest =>
    rcases List.mem_cons.mp member with rfl | member
    · rfl
    · rcases List.mem_append.mp member with member | member
      · exact ihInner member
      · rcases List.mem_cons.mp member with rfl | member
        · rfl
        · exact ihRest member

namespace Filters

/-- At the top level what is added stands behind all conditions. -/
theorem conditions_append_of_top (filters : Filters) (top : filters.enclosing = []) (added : List Condition) :
    (filters.append added).conditions = filters.conditions ++ added := by
  cases filters with
  | mk current enclosing =>
    cases top
    rfl

end Filters

namespace Query

def scope (query : Query) : Scope := Scope.of query.dialect query.qualify query.tables

def fragment? (query : Query) (clause : Clause) : Option String :=
  query.statement?.map fun statement => statement.fragment query.dialect query.qualify clause

def textIn (query : Query) (scope : Scope) : Clause → String
  | .columns => scope.columnsText query.columns
  | .base => scope.baseText query.base
  | .joints => scope.jointsText query.joints
  | .conditions => scope.conditionsText query.filters.conditions
  | .grouping => scope.groupingText query.grouping

theorem fragment?_eq (query : Query) (started : query.operation.isSome = true) (clause : Clause) :
    query.fragment? clause = some (query.textIn query.scope clause) := by
  obtain ⟨operation, set⟩ := Option.isSome_iff_exists.mp started
  rw [fragment?, statement?, set]
  cases clause with
  | columns | base | joints | conditions | grouping => rfl

/-- Columns are written as before: no table is new, or the policy does not count them. -/
def StyleKept (query later : Query) : Prop := later.tables = query.tables ∨ query.qualify ≠ .auto

theorem textIn_of_widens (query : Query) (grounded : query.Grounded) (wider : Scope)
    (widens : query.scope.Widens wider) (clause : Clause) :
    query.textIn wider clause = query.textIn query.scope clause := by
  have owners := grounded.owners
  simp only [mem_references] at owners
  cases clause with
  | columns => exact widens.columnsText query.columns fun column member => owners column (.inl member)
  | base => exact widens.baseText query.base grounded.base
  | joints =>
    refine widens.jointsText query.joints grounded.joined fun joint member => ⟨?_, ?_⟩
    · exact owners joint.left (.inr (.inl ⟨joint, member, .inl rfl⟩))
    · exact owners joint.right (.inr (.inl ⟨joint, member, .inr rfl⟩))
  | conditions =>
    refine widens.conditionsText query.filters.conditions fun comparison member => ?_
    exact owners comparison.column (.inr (.inr (.inl ⟨comparison, member, rfl⟩)))
  | grouping =>
    exact widens.groupingText query.grouping fun column set => owners column (.inr (.inr (.inr set)))

/-- A call leaves the parts of the query alone that other clauses are written from. -/
theorem textIn_run (query : Query) (started : query.operation.isSome = true) (call : Call) (clause : Clause)
    (other : call.clause? ≠ some clause) (scope : Scope) :
    (query.run call).query.textIn scope clause = query.textIn scope clause := by
  cases call with
  | select request columns distinct =>
    rcases select_cases query request columns distinct with same | ⟨_, resolved, _, left⟩
    · rw [run, same]
    · rw [run, left]
      cases clause with
      | columns => exact absurd rfl other
      | base => simp only [textIn, selected, started, if_true]
      | joints | conditions | grouping => rfl
  | filter chain reference operator value =>
    rcases filter_cases query chain reference operator value with same | ⟨known, found, _, _, left⟩
    · rw [run, same]
    · rw [run, left]
      cases clause with
      | conditions => exact absurd rfl other
      | columns | base | joints | grouping => rfl
  | openGroup | closeGroup =>
    cases clause with
    | conditions => exact absurd rfl other
    | columns | base | joints | grouping => rfl
  | join request left right =>
    rcases join_cases query request left right with same | ⟨target, _, same | ⟨first, _, same | ⟨second, _, same⟩⟩⟩
    all_goals rw [run, same]
    all_goals
      cases clause with
      | joints => exact absurd rfl other
      | columns | base | conditions | grouping => rfl
  | groupBy request column =>
    rcases groupBy_cases query request column with same | ⟨resolved, _, left⟩
    · rw [run, same]
    · rw [run, left]
      cases clause with
      | grouping => exact absurd rfl other
      | columns | base | joints | conditions => rfl
  | setDialect | setQualify =>
    cases clause with
    | columns | base | joints | conditions | grouping => rfl

theorem style_run (query : Query) (call : Call) (writes : call.clause?.isSome = true) :
    (query.run call).query.dialect = query.dialect ∧ (query.run call).query.qualify = query.qualify := by
  cases call with
  | select request columns distinct =>
    rcases select_cases query request columns distinct with same | ⟨_, resolved, _, left⟩
    · simp only [run, same, and_self]
    · simp only [run, left, selected, and_self]
  | filter chain reference operator value =>
    rcases filter_cases query chain reference operator value with same | ⟨known, found, _, _, left⟩
    · simp only [run, same, and_self]
    · simp only [run, left, and_self]
  | join request left right =>
    rcases join_cases query request left right with same | ⟨target, _, same | ⟨first, _, same | ⟨second, _, same⟩⟩⟩
    all_goals simp only [run, same, and_self]
  | groupBy request column =>
    rcases groupBy_cases query request column with same | ⟨resolved, _, left⟩
    · simp only [run, same, and_self]
    · simp only [run, left, and_self]
  | openGroup | closeGroup => exact ⟨rfl, rfl⟩
  | setDialect | setQualify => cases writes

structure Carries (query later : Query) : Prop where
  grounded : query.Grounded
  begun : query.operation.isSome = true
  started : later.operation.isSome = true
  widens : query.scope.Widens later.scope

/-- The text of the query does not show the tables that the later query has beside its own. -/
theorem Carries.before {query later : Query} (carries : query.Carries later) (clause : Clause) :
    query.fragment? clause = some (query.textIn later.scope clause) := by
  rw [query.fragment?_eq carries.begun, query.textIn_of_widens carries.grounded later.scope carries.widens]

theorem Carries.after {query later : Query} (carries : query.Carries later) (clause : Clause) :
    later.fragment? clause = some (later.textIn later.scope clause) :=
  later.fragment?_eq carries.started clause

theorem qualified_of_styleKept (query later : Query) (kept : query.StyleKept later)
    (policy : later.qualify = query.qualify) : later.scope.qualified = query.scope.qualified := by
  rcases kept with same | fixed
  · simp only [scope, Scope.of, same, policy]
  · -- the other two policies do not look at the tables, so these may differ
    cases chosen : query.qualify with
    | auto => exact absurd chosen fixed
    | always | never => simp only [scope, Scope.of, policy, chosen]

theorem style_runAll (query : Query) (calls : List Call) (writes : ∀ call ∈ calls, call.clause?.isSome = true) :
    (query.runAll calls).dialect = query.dialect ∧ (query.runAll calls).qualify = query.qualify := by
  induction calls generalizing query with
  | nil => exact ⟨rfl, rfl⟩
  | cons call calls ih =>
    obtain ⟨dialect, qualify⟩ := query.style_run call (writes call List.mem_cons_self)
    have rest := ih (query.run call).query fun other member => writes other (List.mem_cons_of_mem call member)
    exact ⟨rest.1.trans dialect, rest.2.trans qualify⟩

theorem carries_runAll (query : Query) (grounded : query.Grounded) (started : query.operation.isSome = true)
    (calls : List Call) (writes : ∀ call ∈ calls, call.clause?.isSome = true)
    (kept : query.StyleKept (query.runAll calls)) : query.Carries (query.runAll calls) := by
  have grows := query.grows_runAll grounded calls
  obtain ⟨dialect, qualify⟩ := query.style_runAll calls writes
  have qualified := query.qualified_of_styleKept _ kept qualify
  exact ⟨grounded, started, grows.started started, ⟨dialect, qualified, grows.tables⟩⟩

theorem textIn_runAll (query : Query) (grounded : query.Grounded) (started : query.operation.isSome = true)
    (calls : List Call) (clause : Clause) (others : ∀ call ∈ calls, call.clause? ≠ some clause) (scope : Scope) :
    (query.runAll calls).textIn scope clause = query.textIn scope clause := by
  induction calls generalizing query with
  | nil => rfl
  | cons call calls ih =>
    have first := query.textIn_run started call clause (others call List.mem_cons_self) scope
    have still := (query.grows_run grounded.started call).started started
    have rest := ih (query.run call).query (grounded.run query call) still fun other member =>
      others other (List.mem_cons_of_mem call member)
    exact rest.trans first

/-- The text of a clause stays if no call writes to it. -/
theorem fragment?_runAll (query : Query) (grounded : query.Grounded) (started : query.operation.isSome = true)
    (calls : List Call) (clause : Clause) (elsewhere : ∀ call ∈ calls, ∃ own, call.clause? = some own ∧ own ≠ clause)
    (kept : query.StyleKept (query.runAll calls)) :
    (query.runAll calls).fragment? clause = query.fragment? clause := by
  have writes : ∀ call ∈ calls, call.clause?.isSome = true := by
    intro call member
    obtain ⟨own, written, _⟩ := elsewhere call member
    rw [written]
    rfl
  have others : ∀ call ∈ calls, call.clause? ≠ some clause := by
    intro call member same
    obtain ⟨own, written, other⟩ := elsewhere call member
    rw [written] at same
    exact other (Option.some.inj same)
  have carries := query.carries_runAll grounded started calls writes kept
  rw [carries.after, carries.before, query.textIn_runAll grounded started calls clause others]

/-- What a call that succeeds makes of the text of its clause. A select puts its new columns behind the others, or in
place of the star, and a filter at the top level goes behind its keyword, or behind WHERE if nothing stands there.
Opening and closing a group does not show. -/
def Lengthens (query later : Query) : Call → Prop
  | .select request columns distinct =>
    ∃ before resolved, query.fragment? .columns = some before ∧ query.operation = some (.select distinct) ∧
      query.tables.resolve request true = .ok resolved ∧
      let added := Selection.added resolved.id query.columns columns
      later.columns = query.columns ++ added ∧
        (added = [] → later.fragment? .columns = some before) ∧
        (query.columns = [] → added ≠ [] → before = " *" ∧
          later.fragment? .columns = some (" " ++ ", ".intercalate (added.map later.scope.entryText))) ∧
        (query.columns ≠ [] → later.fragment? .columns =
          some (before ++ String.join (added.map fun column => ", " ++ later.scope.entryText column)))
  | .filter chain reference operator value =>
    query.filters.enclosing = [] →
      ∃ before known found, query.fragment? .conditions = some before ∧ operator.resolve = .ok known ∧
        query.tables.resolveColumn query.base reference = .ok found ∧
        later.fragment? .conditions =
          some (Scope.lengthened chain (later.scope.simpleText found.column known value) before)
  | .openGroup _ | .closeGroup => later.fragment? .conditions = query.fragment? .conditions
  | .join request left right =>
    ∃ before target first second, query.fragment? .joints = some before ∧
      query.tables.resolve request false = .ok target ∧
      target.registry.resolveColumn query.base left = .ok first ∧
      first.registry.resolveColumn query.base right = .ok second ∧
      later.fragment? .joints = some (before ++ (" JOIN " ++ later.scope.tableText target.id ++ " ON " ++
        later.scope.columnText first.column ++ " = " ++ later.scope.columnText second.column))
  | .groupBy request column =>
    ∃ resolved, query.tables.resolve request false = .ok resolved ∧
      later.fragment? .grouping =
        some (" GROUP BY " ++ later.scope.columnTextWith true ⟨Text.trim column, none, resolved.id⟩)
  | .setDialect _ | .setQualify _ => ∀ scope clause, later.textIn scope clause = query.textIn scope clause

structure LengthensBy (query later : Query) (chain : Chain) (entries : List Condition) : Prop where
  empty : Condition.comparisonsOf entries = [] → later.fragment? .conditions = query.fragment? .conditions
  filled : Condition.comparisonsOf entries ≠ [] →
    ∃ before inner, query.fragment? .conditions = some before ∧
      Scope.chained (later.scope.conditionTexts entries) = some inner ∧
      later.fragment? .conditions = some (Scope.lengthened chain ("(" ++ inner ++ ")") before)

section Steps

variable (query later : Query) (carries : query.Carries later)

include carries

theorem lengthens_select (request : String) (columns : List ColumnSpec) (distinct : Bool)
    (success : (query.run (.select request columns distinct)).error = none)
    (ends : (query.run (.select request columns distinct)).query = later) :
    query.Lengthens later (.select request columns distinct) := by
  obtain ⟨resolved, started, found, listed⟩ :=
    query.columns_of_select request columns distinct carries.begun success
  rw [ends] at listed
  rw [Lengthens]
  refine ⟨_, resolved, carries.before .columns, started, found, ?_⟩
  dsimp only
  generalize Selection.added resolved.id query.columns columns = added at listed ⊢
  refine ⟨listed, ?_, ?_, ?_⟩
  all_goals rw [carries.after, textIn, textIn, listed]
  · rintro rfl
    rw [List.append_nil]
  · intro empty new
    rw [empty, List.nil_append]
    cases added with
    | nil => exact absurd rfl new
    | cons column added => exact ⟨rfl, rfl⟩
  · intro filled
    rw [later.scope.columnsText_append query.columns added filled]

/-- A condition that is put behind all others lengthens the text of WHERE, if it has a text. -/
theorem fragment?_pushed (condition : Condition)
    (pushed : later.filters.conditions = query.filters.conditions ++ [condition]) :
    later.fragment? .conditions =
      match later.scope.conditionText condition with
      | none => query.fragment? .conditions
      | some text => (query.fragment? .conditions).map (Scope.lengthened condition.chain text) := by
  rw [carries.after, carries.before, textIn, textIn, pushed, Scope.conditionsText_push]
  cases later.scope.conditionText condition with
  | none => rfl
  | some text => rfl

theorem lengthens_filter (chain : Chain) (reference : String) (operator : OperatorSpec) (value : Json)
    (step : query.Step (.filter chain reference operator value) later) :
    query.Lengthens later (.filter chain reference operator value) := by
  obtain ⟨known, found, readable, result, filters⟩ : ∃ known found, operator.resolve = .ok known ∧
      query.tables.resolveColumn query.base reference = .ok found ∧
      later.filters = query.filters.append [.simple chain found.column known value] := by
    cases step with
    | filter _ _ _ _ known found readable result => exact ⟨known, found, readable, result, rfl⟩
  rw [Lengthens]
  intro top
  have pushed := query.filters.conditions_append_of_top top [.simple chain found.column known value]
  rw [← filters] at pushed
  refine ⟨_, known, found, carries.before .conditions, readable, result, ?_⟩
  rw [query.fragment?_pushed later carries _ pushed, Scope.conditionText, carries.before]
  rfl

theorem lengthensBy_group (top : query.filters.enclosing = []) (chain : Chain) (entries : List Condition)
    (closed : later.filters = query.filters.append [.group chain entries]) :
    query.LengthensBy later chain entries := by
  have pushed := query.filters.conditions_append_of_top top [.group chain entries]
  rw [← closed] at pushed
  have text := query.fragment?_pushed later carries _ pushed
  have shown := later.scope.conditionTexts_eq_nil_iff entries
  rw [← Scope.chained_eq_none_iff] at shown
  rw [Scope.conditionText] at text
  constructor
  case empty =>
    intro empty
    rw [text, shown.mpr empty]
  case filled =>
    intro filled
    obtain ⟨inner, written⟩ := Option.ne_none_iff_exists'.mp fun absent => filled (shown.mp absent)
    refine ⟨_, inner, carries.before .conditions, written, ?_⟩
    rw [text, written, carries.before]
    rfl

/-- A group that is opened holds nothing yet, so it does not show, whatever groups it stands in. -/
theorem lengthens_openGroup (chain : Chain) (opened : later.filters = query.filters.openGroup chain) :
    query.Lengthens later (.openGroup chain) := by
  rw [Lengthens, carries.after, carries.before, textIn, textIn, opened, Filters.conditions_openGroup]
  -- the group may stand in others, so its list is compared with itself before, and then what that list stands in
  have nothing : later.scope.conditionTexts (query.filters.current ++ [.group chain []]) =
      later.scope.conditionTexts query.filters.current := by
    have empty := (later.scope.conditionTexts_eq_nil_iff [.group chain []]).mpr rfl
    rw [Scope.conditionTexts_append, empty, List.append_nil]
  rw [Scope.conditionsText, Scope.conditionsText, Filters.conditions, Filters.push,
    Scope.conditionTexts_plug _ _ _ _ nothing, Filters.conditions]

theorem lengthens_join (request left right : String) (step : query.Step (.join request left right) later) :
    query.Lengthens later (.join request left right) := by
  obtain ⟨target, first, second, targeted, opened, closed, joints⟩ : ∃ target first second,
      query.tables.resolve request false = .ok target ∧ target.registry.resolveColumn query.base left = .ok first ∧
      first.registry.resolveColumn query.base right = .ok second ∧
      later.joints = query.joints ++ [⟨target.id, first.column, second.column⟩] := by
    cases step with
    | join _ _ _ target first second targeted opened closed =>
      exact ⟨target, first, second, targeted, opened, closed, rfl⟩
  rw [Lengthens]
  refine ⟨_, target, first, second, carries.before .joints, targeted, opened, closed, ?_⟩
  rw [carries.after, textIn, textIn, joints, Scope.jointsText_append]
  simp [Scope.jointsText, Scope.jointText]

theorem lengthens_groupBy (request column : String) (step : query.Step (.groupBy request column) later) :
    query.Lengthens later (.groupBy request column) := by
  obtain ⟨resolved, found, grouping⟩ : ∃ resolved, query.tables.resolve request false = .ok resolved ∧
      later.grouping = some ⟨Text.trim column, none, resolved.id⟩ := by
    cases step with
    | groupBy _ _ resolved _ found => exact ⟨resolved, found, rfl⟩
  rw [Lengthens]
  refine ⟨resolved, found, ?_⟩
  rw [carries.after, textIn, grouping, Scope.groupingText]

end Steps

theorem lengthens_run (query : Query) (grounded : query.Grounded) (started : query.operation.isSome = true)
    (call : Call) (success : (query.run call).error = none) (kept : query.StyleKept (query.run call).query) :
    query.Lengthens (query.run call).query call := by
  have step := query.step_of_succeeded call success
  have carries : call.clause?.isSome = true → query.Carries (query.run call).query := fun writes =>
    query.carries_runAll grounded started [call] (List.forall_mem_singleton.mpr writes) kept
  cases call with
  | select request columns distinct => exact lengthens_select query _ (carries rfl) request columns distinct success rfl
  | filter chain reference operator value =>
    exact lengthens_filter query _ (carries rfl) chain reference operator value step
  | openGroup chain => exact lengthens_openGroup query _ (carries rfl) chain rfl
  | closeGroup =>
    have same : (query.run .closeGroup).query.filters.conditions = query.filters.conditions :=
      Filters.conditions_closeGroup query.filters
    rw [Lengthens, (carries rfl).after, (carries rfl).before, textIn, textIn, same]
  | join request left right => exact lengthens_join query _ (carries rfl) request left right step
  | groupBy request column => exact lengthens_groupBy query _ (carries rfl) request column step
  | setDialect | setQualify =>
    intro scope clause
    exact query.textIn_run started _ clause (fun same => by cases same) scope

theorem lengthensBy_run (query : Query) (grounded : query.Grounded) (started : query.operation.isSome = true)
    (top : query.filters.enclosing = []) (chain : Chain) (inner : List Call) (bracketed : Bracketed inner)
    (kept : query.StyleKept (query.runAll (.openGroup chain :: (inner ++ [.closeGroup])))) :
    ∃ entries, (query.run (.openGroup chain)).query.Writes inner entries ∧
      query.LengthensBy (query.runAll (.openGroup chain :: (inner ++ [.closeGroup]))) chain entries := by
  have group := Bracketed.group chain inner [] bracketed .nil
  have writes : ∀ call ∈ .openGroup chain :: (inner ++ [.closeGroup]), call.clause?.isSome = true := by
    intro call member
    rw [group.clause? _ call member]
    rfl
  have carries := query.carries_runAll grounded started _ writes kept
  obtain ⟨entries, within⟩ := writes_of_bracketed inner bracketed (query.run (.openGroup chain)).query
  -- with nothing behind it, the run writes the group alone
  have closed := Writes.filters query _ _ (.group query chain inner [] entries [] within (.nil _))
  exact ⟨entries, within, query.lengthensBy_group _ carries top chain entries closed⟩

/-- Take any query that calls built and that has an operation, and further calls that do not change how columns are
written. A clause that none of them writes to keeps its text. A call that succeeds puts its own text behind that of
its clause, or replaces the grouping, and so does a group at the top level, with all that was written in it. -/
theorem incremental_of_run (calls : List Call) :
    let query := ({} : Query).runAll calls
    query.operation.isSome = true →
      (∀ more clause, (∀ call ∈ more, ∃ own, call.clause? = some own ∧ own ≠ clause) →
        query.StyleKept (query.runAll more) → (query.runAll more).fragment? clause = query.fragment? clause) ∧
      (∀ call, (query.run call).error = none → query.StyleKept (query.run call).query →
        query.Lengthens (query.run call).query call) ∧
      ∀ chain inner, query.filters.enclosing = [] → Bracketed inner →
        let later := query.runAll (.openGroup chain :: (inner ++ [.closeGroup]))
        query.StyleKept later → (∀ clause, clause ≠ .conditions → later.fragment? clause = query.fragment? clause) ∧
          ∃ entries, (query.run (.openGroup chain)).query.Writes inner entries ∧
            query.LengthensBy later chain entries := by
  intro query started
  have grounded : query.Grounded := grounded_runAll calls
  refine ⟨query.fragment?_runAll grounded started, query.lengthens_run grounded started, ?_⟩
  intro chain inner top bracketed later kept
  have group := Bracketed.group chain inner [] bracketed .nil
  refine ⟨?_, query.lengthensBy_run grounded started top chain inner bracketed kept⟩
  intro clause other
  refine query.fragment?_runAll grounded started _ clause ?_ kept
  exact fun call member => ⟨.conditions, group.clause? _ call member, other.symm⟩

/-- A group with a comparison and an empty group in it goes behind a filter, and of the columns of a further select
those that are new go behind the others. -/
theorem incremental_of_run_grouped :
    let query := ({} : Query).runAll [.select "users" [⟨"id", none⟩] false,
      .filter .and "age" (.typed .gt) (.integer 18)]
    let inner := [Call.filter .and "name" (.typed .eq) (.text "Ann"), .openGroup .and, .closeGroup]
    let later := query.runAll (.openGroup .or :: (inner ++ [.closeGroup]))
    later.fragment? .conditions = some " WHERE age > 18 OR (name = 'Ann')" ∧
      later.fragment? .columns = query.fragment? .columns ∧
      (∃ entries, (query.run (.openGroup .or)).query.Writes inner entries ∧ query.LengthensBy later .or entries) ∧
      (query.runAll [.groupBy "users" "age"]).fragment? .conditions = query.fragment? .conditions ∧
      let more := Call.select "users" [⟨"name", none⟩, ⟨"id", none⟩, ⟨"age", some "years"⟩] false
      query.Lengthens (query.run more).query more ∧
        (query.run more).query.fragment? .columns = some " id, name, age AS years" := by
  intro query inner later
  obtain ⟨elsewhere, own, group⟩ := incremental_of_run [.select "users" [⟨"id", none⟩] false,
    .filter .and "age" (.typed .gt) (.integer 18)] (by decide +kernel)
  have bracketed : Bracketed inner := .filter _ _ _ _ _ (.group .and [] [] .nil .nil)
  obtain ⟨others, written⟩ := group .or inner (by decide +kernel) bracketed (.inl (by decide +kernel))
  refine ⟨by decide +kernel, others .columns (by decide), written, ?_, ?_, by decide +kernel⟩
  · exact elsewhere [.groupBy "users" "age"] .conditions
      (List.forall_mem_singleton.mpr ⟨.grouping, rfl, by decide⟩) (.inl (by decide +kernel))
  · exact own _ (by decide +kernel) (.inl (by decide +kernel))

end Query
end SqlSelect

import SqlSelect.Proofs.Condition.Growth
import SqlSelect.Proofs.Query.Tables
import SqlSelect.Proofs.Query.Step

namespace SqlSelect

namespace Selection

theorem prefix_add (registry : Registry) (table : Nat) (columns later : List Column) (spec : ColumnSpec)
    (events : List Event) (success : add registry table columns spec = .ok (later, events)) : columns <+: later := by
  rcases Query.add_cases registry table columns spec later events success with rfl | rfl
  · exact List.prefix_rfl
  · exact List.prefix_append columns _

theorem prefix_addAll (registry : Registry) (table : Nat) (columns : List Column) (specs : List ColumnSpec) :
    columns <+: (addAll registry table columns specs).columns := by
  induction specs generalizing columns with
  | nil => exact List.prefix_rfl
  | cons spec specs ih =>
    rw [addAll]
    split
    · exact List.prefix_rfl
    · rename_i later events success
      exact (prefix_add registry table columns later spec events success).trans (ih later)

end Selection

namespace Query

structure Grows (query later : Query) : Prop where
  operation : ∀ operation, query.operation = some operation → later.operation = some operation
  base : ∀ id, query.base = some id → later.base = some id
  tables : query.tables.tables <+: later.tables.tables
  columns : query.columns <+: later.columns
  joints : query.joints <+: later.joints
  filters : ∀ conditions, later.filters.Keeps conditions → query.filters.Keeps conditions

theorem Grows.refl (query : Query) : query.Grows query :=
  ⟨fun _ set => set, fun _ set => set, List.prefix_rfl, List.prefix_rfl, List.prefix_rfl, fun _ keeps => keeps⟩

theorem Grows.trans {first second third : Query} (left : first.Grows second) (right : second.Grows third) :
    first.Grows third where
  operation operation set := right.operation operation (left.operation operation set)
  base id set := right.base id (left.base id set)
  tables := left.tables.trans right.tables
  columns := left.columns.trans right.columns
  joints := left.joints.trans right.joints
  filters conditions keeps := left.filters conditions (right.filters conditions keeps)

theorem Grows.started {query later : Query} (grows : query.Grows later) (started : query.operation.isSome = true) :
    later.operation.isSome = true := by
  obtain ⟨operation, set⟩ := Option.isSome_iff_exists.mp started
  rw [grows.operation operation set]
  rfl

/-- A table that is there keeps its number, its names and its marks. -/
theorem Grows.held {query later : Query} (grows : query.Grows later) (id : Nat) (table : Table)
    (held : query.tables.get? id = some table) : later.tables.get? id = some table := by
  obtain ⟨added, same⟩ := grows.tables
  have known := (List.getElem?_eq_some_iff.mp held).1
  rw [Registry.get?, ← same, List.getElem?_append_left known]
  exact held

/-- What a call does to the conditions: a filter puts one at the end of the list that is addressed, an opening a
group, and a closing puts the open group behind what was before it. -/
theorem filters_run (query : Query) (call : Call) :
    (query.run call).query.filters = query.filters ∨
      (∃ condition, (query.run call).query.filters = query.filters.push condition) ∨
      (∃ chain, (query.run call).query.filters = query.filters.openGroup chain) ∨
      (query.run call).query.filters = query.filters.closeGroup := by
  cases call with
  | select request columns distinct =>
    rcases select_cases query request columns distinct with same | ⟨_, resolved, _, left⟩
    · exact .inl (by rw [run, same])
    · exact .inl (by rw [run, left]; rfl)
  | filter chain reference operator value =>
    rcases filter_cases query chain reference operator value with same | ⟨known, found, _, _, left⟩
    · exact .inl (by rw [run, same])
    · exact .inr (.inl ⟨_, by rw [run, left]⟩)
  | openGroup chain => exact .inr (.inr (.inl ⟨chain, rfl⟩))
  | closeGroup => exact .inr (.inr (.inr rfl))
  | join request left right =>
    rcases join_cases query request left right with same | ⟨target, _, same | ⟨first, _, same | ⟨second, _, same⟩⟩⟩
    all_goals exact .inl (by rw [run, same])
  | groupBy request column =>
    rcases groupBy_cases query request column with same | ⟨resolved, _, left⟩
    · exact .inl (by rw [run, same])
    · exact .inl (by rw [run, left])
  | setDialect | setQualify => exact .inl rfl

/-- Every call puts what it writes at the end of the list that is addressed. -/
theorem conditions_run (query : Query) (call : Call) :
    ∃ added, (query.run call).query.filters.conditions =
      Filters.plug (query.filters.current ++ added) query.filters.enclosing := by
  have nothing : query.filters.conditions = Filters.plug (query.filters.current ++ []) query.filters.enclosing := by
    rw [List.append_nil, Filters.conditions]
  rcases filters_run query call with same | ⟨condition, pushed⟩ | ⟨chain, opened⟩ | closed
  · exact ⟨[], by rw [same, nothing]⟩
  · exact ⟨[condition], by rw [pushed]; rfl⟩
  · exact ⟨[.group chain []], by rw [opened]; rfl⟩
  · exact ⟨[], by rw [closed, Filters.conditions_closeGroup, nothing]⟩

theorem keeps_run (query : Query) (call : Call) (conditions : List Condition)
    (keeps : (query.run call).query.filters.Keeps conditions) : query.filters.Keeps conditions := by
  rcases filters_run query call with same | ⟨condition, pushed⟩ | ⟨chain, opened⟩ | closed
  · rwa [same] at keeps
  · rw [pushed] at keeps
    exact keeps.push query.filters condition conditions
  · rw [opened] at keeps
    exact keeps.openGroup query.filters chain conditions
  · rw [closed] at keeps
    exact keeps.closeGroup query.filters conditions

theorem grows_run (query : Query) (begun : query.Begun) (call : Call) : query.Grows (query.run call).query := by
  have kept := keeps_run query call
  have grown : query.tables.tables <+: (query.run call).query.tables.tables := by
    obtain ⟨requests, same⟩ := tables_run query call
    rw [same]
    exact Registry.tables_resolveAll query.tables requests
  cases call with
  | select request columns distinct =>
    rcases select_cases query request columns distinct with same | ⟨fits, resolved, _, left⟩
    · rw [run, same]
      exact Grows.refl query
    · rw [run, left] at kept grown ⊢
      have listed := Selection.prefix_addAll resolved.registry resolved.id query.columns columns
      refine ⟨?_, ?_, grown, listed, List.prefix_rfl, kept⟩
      · intro operation set
        rcases fits with unset | started
        · rw [unset] at set
          cases set
        · rw [← set, started]
          rfl
      · intro id set
        have started : query.operation.isSome = true := by
          rw [begun, set]
          rfl
        simp only [selected, started, if_true]
        exact set
  | filter chain reference operator value =>
    rcases filter_cases query chain reference operator value with same | ⟨known, found, _, _, left⟩
    · rw [run, same]
      exact Grows.refl query
    · rw [run, left] at kept grown ⊢
      exact ⟨fun _ set => set, fun _ set => set, grown, List.prefix_rfl, List.prefix_rfl, kept⟩
  | join request left right =>
    rcases join_cases query request left right with same | ⟨target, _, same | ⟨first, _, same | ⟨second, _, same⟩⟩⟩
    · rw [run, same]
      exact Grows.refl query
    · rw [run, same] at kept grown ⊢
      exact ⟨fun _ set => set, fun _ set => set, grown, List.prefix_rfl, List.prefix_rfl, kept⟩
    · rw [run, same] at kept grown ⊢
      exact ⟨fun _ set => set, fun _ set => set, grown, List.prefix_rfl, List.prefix_rfl, kept⟩
    · rw [run, same] at kept grown ⊢
      exact ⟨fun _ set => set, fun _ set => set, grown, List.prefix_rfl, List.prefix_append query.joints _, kept⟩
  | groupBy request column =>
    rcases groupBy_cases query request column with same | ⟨resolved, _, left⟩
    · rw [run, same]
      exact Grows.refl query
    · rw [run, left] at kept grown ⊢
      exact ⟨fun _ set => set, fun _ set => set, grown, List.prefix_rfl, List.prefix_rfl, kept⟩
  | openGroup | closeGroup | setDialect | setQualify =>
    exact ⟨fun _ set => set, fun _ set => set, grown, List.prefix_rfl, List.prefix_rfl, kept⟩

theorem grows_runAll (query : Query) (grounded : query.Grounded) (calls : List Call) :
    query.Grows (query.runAll calls) := by
  induction calls generalizing query with
  | nil => exact Grows.refl query
  | cons call calls ih =>
    have first := query.grows_run grounded.started call
    exact first.trans (ih _ (grounded.run query call))

/-- The references without a table that a query accepts are to the base table of the later query: any that is read,
even if its call fails behind it, and those that filters and joins write down. -/
structure Binds (query later : Query) : Prop where
  read : ∀ (registry : Registry) (reference name : String) (found : ResolvedColumn),
    ColumnReference.parse reference = .ok ⟨none, name⟩ → registry.resolveColumn query.base reference = .ok found →
    later.base = some found.column.table
  filter : ∀ chain reference operator value name, ColumnReference.parse reference = .ok ⟨none, name⟩ →
    (query.run (.filter chain reference operator value)).error = none →
    ∃ id known, later.base = some id ∧ (query.run (.filter chain reference operator value)).query.filters =
      query.filters.push (.simple chain ⟨name, none, id⟩ known value)
  left : ∀ request left right name, ColumnReference.parse left = .ok ⟨none, name⟩ →
    (query.run (.join request left right)).error = none →
    ∃ id joint, later.base = some id ∧ joint.left = ⟨name, none, id⟩ ∧
      (query.run (.join request left right)).query.joints = query.joints ++ [joint]
  right : ∀ request left right name, ColumnReference.parse right = .ok ⟨none, name⟩ →
    (query.run (.join request left right)).error = none →
    ∃ id joint, later.base = some id ∧ joint.right = ⟨name, none, id⟩ ∧
      (query.run (.join request left right)).query.joints = query.joints ++ [joint]

theorem base_of_unqualified (registry : Registry) (base : Option Nat) (reference name : String)
    (found : ResolvedColumn) (readable : ColumnReference.parse reference = .ok ⟨none, name⟩)
    (success : registry.resolveColumn base reference = .ok found) :
    base = some found.column.table ∧ found.column = ⟨name, none, found.column.table⟩ := by
  rw [Registry.resolveColumn_of_unqualified registry base reference name readable] at success
  cases base with
  | none => cases success
  | some id =>
    cases success
    exact ⟨rfl, rfl⟩

theorem Grows.binds {query later : Query} (grows : query.Grows later) : query.Binds later := by
  constructor
  case read =>
    intro registry reference name found readable success
    exact grows.base _ (base_of_unqualified registry query.base reference name found readable success).1
  case filter =>
    intro chain reference operator value name readable ended
    have step := query.step_of_succeeded (.filter chain reference operator value) ended
    generalize (query.run (.filter chain reference operator value)).query = after at step
    cases step with
    | filter _ _ _ _ known found _ result =>
      obtain ⟨set, column⟩ := base_of_unqualified query.tables query.base reference name found readable result
      exact ⟨found.column.table, known, grows.base _ set, by rw [← column]⟩
  case left =>
    intro request left right name readable ended
    have step := query.step_of_succeeded (.join request left right) ended
    generalize (query.run (.join request left right)).query = after at step
    cases step with
    | join _ _ _ target first second _ opened _ =>
      obtain ⟨set, column⟩ := base_of_unqualified target.registry query.base left name first readable opened
      exact ⟨first.column.table, _, grows.base _ set, column, rfl⟩
  case right =>
    intro request left right name readable ended
    have step := query.step_of_succeeded (.join request left right) ended
    generalize (query.run (.join request left right)).query = after at step
    cases step with
    | join _ _ _ target first second _ _ closed =>
      obtain ⟨set, column⟩ := base_of_unqualified first.registry query.base right name second readable closed
      exact ⟨second.column.table, _, grows.base _ set, column, rfl⟩

/-- Take any query that calls built, and any more calls. The operation and the base table are set together and stay,
the tables, the select list and the joints are added to at their ends, and so is the list of conditions that is
addressed, while all conditions outside the open groups stay. So a reference without a table that any of the calls
accepts is to the base table that the query has at the end. -/
theorem growth_of_run (calls more : List Call) :
    let query := ({} : Query).runAll calls
    let later := query.runAll more
    query.operation.isSome = query.base.isSome ∧ query.Grows later ∧
      (∀ id table, query.tables.get? id = some table → later.tables.get? id = some table) ∧
      query.filters.Keeps later.filters.conditions ∧
      (∀ call, ∃ added, (query.run call).query.filters.conditions =
        Filters.plug (query.filters.current ++ added) query.filters.enclosing) ∧
      query.Binds later := by
  intro query later
  have grounded : query.Grounded := grounded_runAll calls
  have grows : query.Grows later := query.grows_runAll grounded more
  have keeps := grows.filters _ later.filters.keeps_conditions
  exact ⟨grounded.started, grows, grows.held, keeps, query.conditions_run, grows.binds⟩

/-- A group is open, and behind it a call fails, a nested group is opened and the first is closed. -/
theorem growth_of_run_grouped :
    let calls := [Call.select "users u" [⟨"id", none⟩] false, .filter .and "age" (.spelled ">") (.integer 18),
      .openGroup .or, .filter .and "name" (.typed .eq) (.text "Ann")]
    let more := [Call.filter .or "orders." (.typed .eq) .null, .openGroup .and, .closeGroup,
      .filter .or "orders.total" (.typed .lt) (.integer 5), .closeGroup, .join "orders" "id" "orders.buyer"]
    let query := ({} : Query).runAll calls
    let later := query.runAll more
    query.tables.get? 0 = some ⟨"users", "u", true, true⟩ ∧ later.tables.get? 0 = some ⟨"users", "u", true, true⟩ ∧
      query.filters.Keeps later.filters.conditions := by
  intro calls more query later
  have held : query.tables.get? 0 = some ⟨"users", "u", true, true⟩ := by decide +kernel
  have growth := growth_of_run calls more
  exact ⟨held, growth.2.2.1 0 _ held, growth.2.2.2.1⟩

end Query
end SqlSelect

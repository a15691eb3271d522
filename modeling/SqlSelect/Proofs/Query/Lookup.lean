import SqlSelect.Proofs.Query.Tables
import SqlSelect.Proofs.Statement.Checked

namespace SqlSelect

namespace Selection

theorem mem_columns_add (registry : Registry) (table : Nat) (columns later : List Column) (spec : ColumnSpec)
    (events : List Event) (success : add registry table columns spec = .ok (later, events)) (column : Column)
    (member : column ∈ columns) : column ∈ later := by
  rcases Query.add_cases registry table columns spec later events success with rfl | rfl
  · exact member
  · exact List.mem_append_left _ member

theorem mem_columns_addAll (registry : Registry) (table : Nat) (columns : List Column) (specs : List ColumnSpec)
    (column : Column) (member : column ∈ columns) : column ∈ (addAll registry table columns specs).columns := by
  induction specs generalizing columns with
  | nil => exact member
  | cons spec specs ih =>
    rw [addAll]
    split
    · exact member
    · rename_i later events success
      exact ih later (mem_columns_add registry table columns later spec events success column member)

theorem repeated_of_mem_add (registry : Registry) (table : Nat) (columns later : List Column) (spec : ColumnSpec)
    (events : List Event) (success : add registry table columns spec = .ok (later, events)) (event : Event)
    (reported : event ∈ events) :
    event = .columnRepeated (registry.table table).aliasName spec.name ∧
      ∃ column ∈ columns, column.table = table ∧ column.name = spec.name := by
  unfold add at success
  split at success
  · cases success
  · split at success
    · rename_i repeated
      cases success
      refine ⟨List.mem_singleton.mp reported, ?_⟩
      simpa using repeated
    · split at success
      · cases success
        cases reported
      · split at success
        · cases success
        · cases success
          cases reported

theorem repeated_of_mem_addAll (registry : Registry) (table : Nat) (columns : List Column) (specs : List ColumnSpec)
    (event : Event) (reported : event ∈ (addAll registry table columns specs).events) :
    ∃ column ∈ (addAll registry table columns specs).columns, column.table = table ∧
      event = .columnRepeated (registry.table table).aliasName column.name := by
  induction specs generalizing columns with
  | nil => cases reported
  | cons spec specs ih =>
    rw [addAll] at reported ⊢
    split at reported
    · cases reported
    · rename_i later events success
      rcases List.mem_append.mp reported with first | rest
      · obtain ⟨same, column, member, owner, name⟩ :=
          repeated_of_mem_add registry table columns later spec events success event first
        have kept := mem_columns_add registry table columns later spec events success column member
        refine ⟨column, mem_columns_addAll registry table later specs column kept, owner, ?_⟩
        rw [same, name]
      · exact ih later rest

end Selection

theorem Registry.event_ne_repeated (registry : Registry) (request : String) (isRoot : Bool) (resolved : Resolved)
    (success : registry.resolve request isRoot = .ok resolved) (aliasName name : String) :
    resolved.event ≠ .columnRepeated aliasName name := by
  unfold resolve at success
  cases readable : TableRequest.parse request with
  | error fault => simp [readable, bind, Except.bind] at success
  | ok parsed =>
    cases checked : registry.check parsed isRoot with
    | error fault => simp [readable, checked, bind, Except.bind] at success
    | ok resolution =>
      cases resolution
      all_goals
        simp only [readable, checked, bind, Except.bind, Except.ok.injEq] at success
        subst success
        intro same
        cases same

namespace Query

theorem repeated_of_mem_extended (query : Query) (request : String) (columns : List ColumnSpec) (distinct : Bool)
    (resolved : Resolved) (result : query.tables.resolve request true = .ok resolved) (aliasName name : String)
    (reported : .columnRepeated aliasName name ∈ (query.extended resolved columns distinct).events) :
    .columnRepeated aliasName name ∈ (Selection.addAll resolved.registry resolved.id query.columns columns).events := by
  have table := Registry.event_ne_repeated query.tables request true resolved result aliasName name
  have operation : .columnRepeated aliasName name ∉ (query.begin (.select distinct) resolved.id).2 := by
    unfold begin
    split <;> simp
  rcases List.mem_append.mp reported with first | rest
  · rcases List.mem_cons.mp first with same | set
    · exact absurd same.symm table
    · exact absurd set operation
  · exact rest

theorem owner_of_repeated (query : Query) (request : String) (columns : List ColumnSpec) (distinct : Bool)
    (aliasName name : String)
    (reported : .columnRepeated aliasName name ∈ (query.select request columns distinct).events) :
    let later := (query.select request columns distinct).query
    ∃ column ∈ later.columns, ∃ table, later.tables.get? column.table = some table ∧
      table.aliasName = aliasName ∧ column.name = name := by
  intro later
  rcases query.fits_or_conflict distinct with fits | ⟨current, set, differs⟩
  · have outcome := select_of_fits query request columns distinct fits
    cases result : query.tables.resolve request true with
    | error fault =>
      rw [outcome, result] at reported
      cases reported
    | ok resolved =>
      rw [result] at outcome
      rw [outcome] at reported
      have skipped := repeated_of_mem_extended query request columns distinct resolved result aliasName name reported
      obtain ⟨column, member, owner, same⟩ := Selection.repeated_of_mem_addAll _ _ _ _ _ skipped
      cases same
      have held := resolved.registry.get?_of_lt resolved.id
        (Registry.resolve_lt_size query.tables request true resolved result)
      rw [← owner] at held
      have left : later = query.selected resolved columns distinct := congrArg Outcome.query outcome
      rw [left, ← owner]
      exact ⟨column, member, _, held, rfl, rfl⟩
  · rw [select_of_conflict query request columns distinct current set differs] at reported
    cases reported

/-- The text, with every look-up of a table checked; none if a table is not there. -/
def generate? (query : Query) : Option (Except QueryError String) :=
  match query.statement? with
  | some statement => (statement.render? query.dialect query.qualify).map .ok
  | none => some (.error .noOperation)

theorem generate?_eq_some (query : Query) (grounded : query.Grounded) : query.generate? = some query.generate := by
  unfold generate? generate statement?
  cases query.operation with
  | none => rfl
  | some operation =>
    have rendered := Statement.render?_eq_some ⟨operation, query.base, query.columns, query.joints,
      query.filters.conditions, query.grouping, query.tables⟩ query.dialect query.qualify grounded.base
      grounded.joined grounded.owners
    rw [Option.map_some]
    simp only [rendered, Option.map_some]

theorem baseTable_eq (query : Query) (grounded : query.Grounded) :
    query.baseTable = query.base.bind query.tables.get? := by
  unfold baseTable
  cases fixed : query.base with
  | none => rfl
  | some id =>
    have held := query.tables.get?_of_lt id (grounded.base id fixed)
    rw [Option.map_some, Option.bind_some, held]

/-- Every id in a query is that of a table, so the text and the base table are found by look-ups that do not fail, and
the report on a column that is skipped names the table of a column that is there. -/
theorem lookups_succeed (calls : List Call) :
    let query := ({} : Query).runAll calls
    query.Grounded ∧ query.generate? = some query.generate ∧
      query.baseTable = query.base.bind query.tables.get? ∧
      ∀ request columns distinct aliasName name,
        .columnRepeated aliasName name ∈ (query.select request columns distinct).events →
          let later := (query.select request columns distinct).query
          ∃ column ∈ later.columns, ∃ table, later.tables.get? column.table = some table ∧
            table.aliasName = aliasName ∧ column.name = name := by
  intro query
  have grounded : query.Grounded := grounded_runAll calls
  refine ⟨grounded, query.generate?_eq_some grounded, query.baseTable_eq grounded, ?_⟩
  intro request columns distinct aliasName name reported
  exact query.owner_of_repeated request columns distinct aliasName name reported

/-- A column is selected again after a filter in an open group has failed. -/
theorem lookups_succeed_repeated :
    let query := ({} : Query).runAll [.select "users u" [⟨"id", some "key"⟩] false, .openGroup .and,
      .filter .or "items.price" (.typed .lt) (.integer 3), .filter .or "name" (.spelled "near") .null, .closeGroup]
    let later := (query.select "users" [⟨"name", none⟩, ⟨"id", none⟩] false)
    .columnRepeated "u" "id" ∈ later.events ∧
      ∃ column ∈ later.query.columns, ∃ table, later.query.tables.get? column.table = some table ∧
        table.aliasName = "u" ∧ column.name = "id" := by
  intro query later
  have reported : .columnRepeated "u" "id" ∈ later.events := by decide +kernel
  exact ⟨reported, (lookups_succeed _).2.2.2 "users" [⟨"name", none⟩, ⟨"id", none⟩] false "u" "id" reported⟩

end Query
end SqlSelect

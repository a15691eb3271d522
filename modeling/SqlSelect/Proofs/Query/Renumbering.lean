import SqlSelect.Proofs.Query.Step
import SqlSelect.Proofs.Statement.Renumbering

namespace SqlSelect

def ResolvedColumn.renumber (f : Nat → Nat) (target : Registry) (found : ResolvedColumn) : ResolvedColumn :=
  ⟨found.column.renumber f, target, found.events⟩

namespace Registry

section Known

variable (f : Nat → Nat) (source target : Registry) (renumbers : Renumbers f source target) (plain : source.Plain)
  (clear : target.Plain) (base : Option Nat) (reference : String)
  (knows : ∀ request ∈ (ColumnReference.request? reference).toList, source.Knows request)

include plain knows

theorem registry_of_knows_column (found : ResolvedColumn)
    (success : source.resolveColumn base reference = .ok found) : found.registry = source := by
  rcases resolveColumn_cases source base reference found success with
    ⟨id, name, _, _, rfl⟩ | ⟨request, name, resolved, readable, result, rfl⟩
  · rfl
  · rw [ColumnReference.request?_of_readable reference _ readable] at knows
    exact registry_of_knows source plain request (knows request List.mem_cons_self) false resolved result

include renumbers clear

theorem Renumbers.resolveColumn :
    target.resolveColumn (base.map f) reference =
      (source.resolveColumn base reference).map (ResolvedColumn.renumber f target) := by
  cases readable : ColumnReference.parse reference with
  | error fault =>
    rw [resolveColumn_of_unreadable source base reference fault readable]
    rw [resolveColumn_of_unreadable target (base.map f) reference fault readable]
    rfl
  | ok parsed =>
    rw [ColumnReference.request?_of_readable reference parsed readable] at knows
    obtain ⟨_ | request, name⟩ := parsed
    · rw [resolveColumn_of_unqualified source base reference name readable]
      rw [resolveColumn_of_unqualified target (base.map f) reference name readable]
      cases base with
      | none => rfl
      | some id => rfl
    · rw [resolveColumn_of_qualified source base reference request name readable]
      rw [resolveColumn_of_qualified target (base.map f) reference request name readable]
      rw [renumbers.resolve f source target plain clear request (knows request List.mem_cons_self) false]
      cases source.resolve request false with
      | error fault => rfl
      | ok resolved => rfl

end Known

end Registry

namespace Selection

section Add

variable (f : Nat → Nat) (injective : Function.Injective f) (source target : Registry) (table : Nat)

include injective

/-- Whether a column is repeated is told by its number, so different numbers have to stay different. -/
theorem add_renumber (columns : List Column) (spec : ColumnSpec) :
    (add target (f table) (columns.map (Column.renumber f)) spec).map (·.1) =
      (add source table columns spec).map fun added => added.1.map (Column.renumber f) := by
  have repeated :
      (columns.map (Column.renumber f)).any (fun column => column.table == f table && column.name == spec.name) =
        columns.any fun column => column.table == table && column.name == spec.name := by
    rw [List.any_map]
    congr 1
    funext column
    apply Bool.eq_iff_iff.mpr
    simp only [Function.comp, Column.renumber, Bool.and_eq_true, beq_iff_eq, injective.eq_iff]
  have taken : ∀ aliasName, (columns.map (Column.renumber f)).any (·.aliasName == some aliasName) =
      columns.any (·.aliasName == some aliasName) := by
    intro aliasName
    rw [List.any_map]
    rfl
  unfold add
  rw [repeated]
  split
  · rfl
  · split
    · rfl
    · cases spec.aliasName with
      | none => simp [Except.map, Column.renumber]
      | some aliasName =>
        simp only [taken]
        split
        · rfl
        · simp [Except.map, Column.renumber]

theorem addAll_renumber (columns : List Column) (specs : List ColumnSpec) :
    (addAll target (f table) (columns.map (Column.renumber f)) specs).columns =
      (addAll source table columns specs).columns.map (Column.renumber f) := by
  induction specs generalizing columns with
  | nil => rfl
  | cons spec specs ih =>
    have same := add_renumber f injective source target table columns spec
    rw [addAll, addAll]
    cases first : add source table columns spec with
    | error fault =>
      cases second : add target (f table) (columns.map (Column.renumber f)) spec with
      | error cause => rfl
      | ok added => simp [first, second, Except.map] at same
    | ok added =>
      cases second : add target (f table) (columns.map (Column.renumber f)) spec with
      | error cause => simp [first, second, Except.map] at same
      | ok later =>
        have columns_same : later.1 = added.1.map (Column.renumber f) := by
          simpa [first, second, Except.map] using same
        simp only [columns_same]
        exact ih added.1

end Add

theorem columns_addAll (source target : Registry) (table : Nat) (columns : List Column) (specs : List ColumnSpec) :
    (addAll target table columns specs).columns = (addAll source table columns specs).columns := by
  have same := addAll_renumber id Function.injective_id source target table columns specs
  rw [show Column.renumber id = id from rfl, List.map_id, List.map_id] at same
  exact same

end Selection

namespace Query

def renumber (f : Nat → Nat) (target : Registry) (query : Query) : Query :=
  { query with
    base := query.base.map f
    columns := query.columns.map (Column.renumber f)
    joints := query.joints.map (Joint.renumber f)
    filters := query.filters.renumber f
    grouping := query.grouping.map (Column.renumber f)
    tables := target }

@[simp] theorem tables_renumber (f : Nat → Nat) (target : Registry) (query : Query) :
    (query.renumber f target).tables = target := rfl

@[simp] theorem base_renumber (f : Nat → Nat) (target : Registry) (query : Query) :
    (query.renumber f target).base = query.base.map f := rfl

theorem statement?_renumber (f : Nat → Nat) (target : Registry) (query : Query) :
    (query.renumber f target).statement? = query.statement?.map (Statement.renumber f target) := by
  unfold statement? renumber
  simp only [Filters.conditions_renumber, Option.map_map]
  rfl

theorem tables_of_statement? (query : Query) (statement : Statement) (written : query.statement? = some statement) :
    statement.tables = query.tables := by
  obtain ⟨operation, _, rfl⟩ := Option.map_eq_some_iff.mp written
  rfl

theorem generate_renumber (f : Nat → Nat) (target : Registry) (query : Query)
    (renumbers : Registry.Renumbers f query.tables target) :
    (query.renumber f target).generate = query.generate := by
  rw [generate, generate, statement?_renumber]
  cases written : query.statement? with
  | none => rfl
  | some statement =>
    rw [← query.tables_of_statement? statement written] at renumbers
    have text := statement.render_renumber f target renumbers query.dialect query.qualify
    exact congrArg Except.ok text

section Known

variable (query : Query) (plain : query.tables.Plain)

include plain

/-- Calls that ask for known tables only leave the tables as they are. -/
theorem tables_run_of_knows (call : Call) (knows : ∀ request ∈ call.requests, query.tables.Knows request) :
    (query.run call).query.tables = query.tables := by
  cases call with
  | select request columns distinct =>
    have asked := knows request List.mem_cons_self
    rcases select_cases query request columns distinct with same | ⟨_, resolved, found, left⟩
    · rw [run, same]
    · rw [run, left]
      exact Registry.registry_of_knows query.tables plain request asked true resolved found
  | filter chain reference operator value =>
    rcases filter_cases query chain reference operator value with same | ⟨known, found, _, result, left⟩
    · rw [run, same]
    · rw [run, left]
      exact Registry.registry_of_knows_column query.tables plain query.base reference knows found result
  | join request left right =>
    simp only [Call.requests, List.mem_append] at knows
    have asked := knows request (.inl (.inl List.mem_cons_self))
    rcases join_cases query request left right with same | ⟨target, targeted, later⟩
    · rw [run, same]
    have kept := Registry.registry_of_knows query.tables plain request asked false target targeted
    rw [kept] at later
    rcases later with same | ⟨first, opened, later⟩
    · rw [run, same]
    have still := Registry.registry_of_knows_column query.tables plain query.base left
      (fun request member => knows request (.inl (.inr member))) first opened
    rw [still] at later
    rcases later with same | ⟨second, closed, same⟩
    · rw [run, same]
    · rw [run, same]
      exact Registry.registry_of_knows_column query.tables plain query.base right
        (fun request member => knows request (.inr member)) second closed
  | groupBy request column =>
    have asked := knows request List.mem_cons_self
    rcases groupBy_cases query request column with same | ⟨resolved, found, left⟩
    · rw [run, same]
    · rw [run, left]
      exact Registry.registry_of_knows query.tables plain request asked false resolved found
  | openGroup | closeGroup | setDialect | setQualify => rfl

variable (f : Nat → Nat) (target : Registry) (renumbers : Registry.Renumbers f query.tables target)
  (clear : target.Plain)

include renumbers clear

theorem select_renumber (request : String) (columns : List ColumnSpec) (distinct : Bool)
    (knows : query.tables.Knows request) :
    ((query.renumber f target).select request columns distinct).query =
      (query.select request columns distinct).query.renumber f target := by
  rcases query.fits_or_conflict distinct with fits | ⟨current, set, differs⟩
  · have resolution := renumbers.resolve f query.tables target plain clear request knows true
    rw [select_of_fits query request columns distinct fits]
    rw [select_of_fits (query.renumber f target) request columns distinct fits]
    rw [tables_renumber, resolution]
    cases found : query.tables.resolve request true with
    | error fault => rfl
    | ok resolved =>
      have added := Selection.addAll_renumber f renumbers.injective resolved.registry target resolved.id query.columns
        columns
      simp only [Except.map, extended, selected, renumber, Resolved.renumber, added, apply_ite (Option.map f),
        Option.map_some]
      rfl
  · rw [select_of_conflict query request columns distinct current set differs]
    rw [select_of_conflict (query.renumber f target) request columns distinct current set differs]
    rfl

theorem filter_renumber (chain : Chain) (reference : String) (operator : OperatorSpec) (value : Json)
    (knows : ∀ request ∈ (ColumnReference.request? reference).toList, query.tables.Knows request) :
    ((query.renumber f target).filter chain reference operator value).query =
      (query.filter chain reference operator value).query.renumber f target := by
  have resolution := renumbers.resolveColumn f query.tables target plain clear query.base reference knows
  unfold filter
  rw [tables_renumber, base_renumber, resolution]
  cases operator.resolve with
  | error fault => rfl
  | ok known =>
    cases query.tables.resolveColumn query.base reference with
    | error fault => rfl
    | ok found =>
      simp only [Except.map, done, renumber, ResolvedColumn.renumber, Filters.renumber_push, Condition.renumber]

theorem join_renumber (request left right : String)
    (knows : ∀ asked ∈ (Call.join request left right).requests, query.tables.Knows asked) :
    ((query.renumber f target).join request left right).query =
      (query.join request left right).query.renumber f target := by
  simp only [Call.requests, List.mem_append] at knows
  have asked := knows request (.inl (.inl List.mem_cons_self))
  have resolution := renumbers.resolve f query.tables target plain clear request asked false
  have opening := renumbers.resolveColumn f query.tables target plain clear query.base left
    fun request member => knows request (.inl (.inr member))
  have closing := renumbers.resolveColumn f query.tables target plain clear query.base right
    fun request member => knows request (.inr member)
  unfold join
  rw [tables_renumber, base_renumber, resolution]
  cases targeted : query.tables.resolve request false with
  | error fault => rfl
  | ok joined =>
    have kept := Registry.registry_of_knows query.tables plain request asked false joined targeted
    simp only [Except.map, Resolved.renumber, kept, opening]
    cases opened : query.tables.resolveColumn query.base left with
    | error fault => rfl
    | ok first =>
      have still := Registry.registry_of_knows_column query.tables plain query.base left
        (fun request member => knows request (.inl (.inr member))) first opened
      simp only [ResolvedColumn.renumber, still, closing]
      cases query.tables.resolveColumn query.base right with
      | error fault => rfl
      | ok second => simp [Except.map, done, renumber, ResolvedColumn.renumber, Joint.renumber]

theorem groupBy_renumber (request column : String) (knows : query.tables.Knows request) :
    ((query.renumber f target).groupBy request column).query =
      (query.groupBy request column).query.renumber f target := by
  have resolution := renumbers.resolve f query.tables target plain clear request knows false
  unfold groupBy
  split
  · rfl
  · rw [tables_renumber, resolution]
    cases query.tables.resolve request false with
    | error fault => rfl
    | ok resolved => rfl

theorem run_renumber (call : Call) (knows : ∀ request ∈ call.requests, query.tables.Knows request) :
    ((query.renumber f target).run call).query = (query.run call).query.renumber f target := by
  cases call with
  | select request columns distinct =>
    exact query.select_renumber plain f target renumbers clear request columns distinct
      (knows request List.mem_cons_self)
  | filter chain reference operator value =>
    exact query.filter_renumber plain f target renumbers clear chain reference operator value knows
  | openGroup chain => simp only [run, openGroup, done, renumber, Filters.renumber_openGroup]
  | closeGroup => simp only [run, closeGroup, done, renumber, Filters.renumber_closeGroup]
  | join request left right => exact query.join_renumber plain f target renumbers clear request left right knows
  | groupBy request column =>
    exact query.groupBy_renumber plain f target renumbers clear request column (knows request List.mem_cons_self)
  | setDialect dialect => rfl
  | setQualify qualify => rfl

theorem runAll_renumber (calls : List Call)
    (knows : ∀ call ∈ calls, ∀ request ∈ call.requests, query.tables.Knows request) :
    (query.renumber f target).runAll calls = (query.runAll calls).renumber f target := by
  induction calls generalizing query with
  | nil => rfl
  | cons call calls ih =>
    have known := knows call List.mem_cons_self
    have rest := fun other member => knows other (List.mem_cons_of_mem call member)
    have kept := query.tables_run_of_knows plain call known
    rw [runAll_cons, runAll_cons, query.run_renumber plain f target renumbers clear call known]
    rw [← kept] at plain renumbers rest
    exact ih (query.run call).query plain renumbers rest

end Known

end Query
end SqlSelect

import SqlSelect.Proofs.Dialect.Identifier
import SqlSelect.Proofs.Query.Incremental
import SqlSelect.Proofs.Query.SelectList

namespace SqlSelect

theorem ne_star_of_mem (text : String) (c : Char) (member : c ∈ text.toList) (other : c ≠ '*') : text ≠ "*" := by
  rintro rfl
  exact other (List.mem_singleton.mp member)

theorem exists_mem_of_isPlainIdentifier (name : String) (plain : Text.isPlainIdentifier name = true) :
    ∃ c ∈ name.toList, c ≠ '*' := by
  simp only [Text.isPlainIdentifier, Bool.and_eq_true, List.all_eq_true] at plain
  obtain ⟨filled, allowed⟩ := plain
  cases spelled : name.toList with
  | nil => simp [spelled] at filled
  | cons c cs =>
    refine ⟨c, List.mem_cons_self, ?_⟩
    rintro rfl
    have plain := allowed '*' (spelled ▸ List.mem_cons_self)
    revert plain
    decide

theorem Dialect.quoteIdent_ne_star (dialect : Dialect) (name : String)
    (plain : Text.isPlainIdentifier name = true) : dialect.quoteIdent name ≠ "*" := by
  cases dialect with
  | plain =>
    obtain ⟨c, member, other⟩ := exists_mem_of_isPlainIdentifier name plain
    exact ne_star_of_mem name c member other
  | ansi => exact ne_star_of_mem _ '\x22' (by simp [quoteIdent]) (by decide)
  | mysql => exact ne_star_of_mem _ '\x60' (by simp [quoteIdent]) (by decide)

namespace Scope

variable (scope : Scope) (column : Column)

theorem columnText_eq_star_iff : scope.columnText column = "*" ↔ column.name = "*" := by
  rw [columnText, columnTextWith]
  cases plain : Text.isPlainIdentifier column.name with
  | false => exact Iff.rfl
  | true =>
    obtain ⟨c, member, other⟩ := exists_mem_of_isPlainIdentifier column.name plain
    have named := ne_star_of_mem column.name c member other
    cases scope.qualified with
    | false =>
      simp only [Bool.not_true, Bool.false_eq_true, if_false, named, iff_false]
      exact scope.dialect.quoteIdent_ne_star column.name plain
    | true =>
      simp only [Bool.not_true, Bool.false_eq_true, if_false, if_true, named, iff_false]
      apply ne_star_of_mem _ '.' _ (by decide)
      rw [Dialect.toList_qualifyColumn]
      exact List.mem_append_right _ List.mem_cons_self

theorem entryText_eq_star_iff : scope.entryText column = "*" ↔ column.name = "*" ∧ column.aliasName = none := by
  rw [entryText]
  cases column.aliasName with
  | none => simp only [scope.columnText_eq_star_iff column, and_true]
  | some aliasName =>
    simp only [reduceCtorEq, and_false, iff_false]
    exact ne_star_of_mem _ ' ' (by simp) (by decide)

end Scope

namespace Selection

theorem addAll_ne_nil (registry : Registry) (table : Nat) (columns : List Column) (specs : List ColumnSpec)
    (filled : columns ≠ []) : (addAll registry table columns specs).columns ≠ [] :=
  (prefix_addAll registry table columns specs).ne_nil filled

theorem addAll_eq_nil_iff (registry : Registry) (table : Nat) (columns : List Column) (specs : List ColumnSpec) :
    (addAll registry table columns specs).columns = [] ↔
      columns = [] ∧ (specs.head?.any fun spec => !Text.isAllBlank spec.name) = false := by
  cases columns with
  | cons column columns => simp [addAll_ne_nil]
  | nil =>
    cases specs with
    | nil => simp [addAll]
    | cons spec specs =>
      have adds := adds_add registry table [] spec
      rw [addAll]
      generalize add registry table [] spec = result at adds
      cases adds with
      | blank unnamed => simp [unnamed]
      | repeated _ _ listed =>
        obtain ⟨_, inside, _⟩ := listed
        cases inside
      | taken _ _ _ _ held =>
        obtain ⟨_, inside, _⟩ := held
        cases inside
      | new _ named _ _ => simp [addAll_ne_nil, named]

end Selection

namespace Query

def entries (query : Query) : List String :=
  if query.columns = [] then ["*"] else query.columns.map query.scope.entryText

theorem columnsText_eq (query : Query) :
    query.scope.columnsText query.columns = " " ++ ", ".intercalate query.entries := by
  rw [entries]
  cases query.columns with
  | nil => rfl
  | cons column columns => rfl

theorem star_mem_entries_iff (query : Query) :
    "*" ∈ query.entries ↔ query.columns = [] ∨ ∃ column ∈ query.columns, column.name = "*" ∧ column.aliasName = none := by
  rw [entries]
  by_cases empty : query.columns = []
  · simp [empty]
  · rw [if_neg empty]
    simp only [List.mem_map, Scope.entryText_eq_star_iff, empty, false_or]

theorem generate_eq_entries (query : Query) (grounded : query.Grounded) (operation : Operation)
    (set : query.operation = some operation) :
    ∃ rest, query.generate = .ok (operation.keywords ++ " " ++ ", ".intercalate query.entries ++ " FROM " ++ rest) := by
  obtain ⟨id, base⟩ : ∃ id, query.base = some id := by
    rw [← Option.isSome_iff_exists, ← grounded.started, set]
    rfl
  rw [generate, statement?, set, Option.map_some]
  simp only [Statement.render_eq, Statement.fragment, base, Scope.baseText]
  rw [show (Scope.of query.dialect query.qualify query.tables).columnsText query.columns = _ from query.columnsText_eq]
  simp only [String.append_assoc]
  exact ⟨_, rfl⟩

def requested (query : Query) : Call → Option (Resolved × List ColumnSpec)
  | .select request specs distinct =>
    if query.operation = none ∨ query.operation = some (.select distinct) then
      (query.tables.resolve request true).toOption.map fun resolved => (resolved, specs)
    else none
  | .filter .. | .openGroup _ | .closeGroup | .join .. | .groupBy .. | .setDialect _ | .setQualify _ => none

/-- The first entry that the call asks for has a name, so the call puts a column into a list that is empty. -/
def names (query : Query) (call : Call) : Bool :=
  (query.requested call).any fun (_, specs) => specs.head?.any fun spec => !Text.isAllBlank spec.name

def namesAny (query : Query) : List Call → Bool
  | [] => false
  | call :: calls => query.names call || (query.run call).query.namesAny calls

theorem select_of_requested (query : Query) (call : Call) (resolved : Resolved) (specs : List ColumnSpec)
    (found : query.requested call = some (resolved, specs)) :
    ∃ request distinct, call = .select request specs distinct := by
  cases call with
  | select request asked distinct =>
    rw [requested] at found
    split at found
    · obtain ⟨_, _, same⟩ := Option.map_eq_some_iff.mp found
      cases same
      exact ⟨request, distinct, rfl⟩
    · cases found
  | filter | openGroup | closeGroup | join | groupBy | setDialect | setQualify => cases found

/-- Only a select that finds its table changes the list. -/
theorem columns_run (query : Query) (call : Call) :
    (query.run call).query.columns =
      match query.requested call with
      | none => query.columns
      | some (resolved, specs) => (Selection.addAll resolved.registry resolved.id query.columns specs).columns := by
  cases call with
  | select request specs distinct =>
    rw [run, requested]
    rcases query.fits_or_conflict distinct with fits | ⟨current, set, differs⟩
    · rw [select_of_fits query request specs distinct fits, if_pos fits]
      cases query.tables.resolve request true with
      | error fault => rfl
      | ok resolved => rfl
    · rw [select_of_conflict query request specs distinct current set differs, if_neg (by simp [set, differs])]
      rfl
  | filter | openGroup | closeGroup | join | groupBy | setDialect | setQualify =>
    exact (query.kept_of_other _ rfl).2.2

theorem columns_run_eq_nil_iff (query : Query) (call : Call) :
    (query.run call).query.columns = [] ↔ query.columns = [] ∧ query.names call = false := by
  rw [columns_run, names]
  cases query.requested call with
  | none => simp
  | some found => exact Selection.addAll_eq_nil_iff found.1.registry found.1.id query.columns found.2

theorem columns_runAll_eq_nil_iff (query : Query) (calls : List Call) :
    (query.runAll calls).columns = [] ↔ query.columns = [] ∧ query.namesAny calls = false := by
  induction calls generalizing query with
  | nil => simp [namesAny]
  | cons call calls ih => rw [runAll_cons, ih, columns_run_eq_nil_iff, namesAny, Bool.or_eq_false_iff, and_assoc]

theorem asked_of_mem_runAll (query : Query) (calls : List Call) (column : Column)
    (member : column ∈ (query.runAll calls).columns) :
    column ∈ query.columns ∨ ∃ request specs distinct, .select request specs distinct ∈ calls ∧
      ⟨column.name, column.aliasName⟩ ∈ specs := by
  induction calls generalizing query with
  | nil => exact .inl member
  | cons call calls ih =>
    rcases ih _ member with before | ⟨request, specs, distinct, later, asked⟩
    · rw [columns_run] at before
      cases found : query.requested call with
      | none =>
        rw [found] at before
        exact .inl before
      | some hit =>
        obtain ⟨resolved, specs⟩ := hit
        rw [found] at before
        rcases mem_addAll resolved.registry resolved.id query.columns specs column before with kept | ⟨spec, asked, same⟩
        · exact .inl kept
        · rw [same]
          obtain ⟨request, distinct, rfl⟩ := query.select_of_requested call resolved specs found
          exact .inr ⟨request, specs, distinct, List.mem_cons_self, asked⟩
    · exact .inr ⟨request, specs, distinct, List.mem_cons_of_mem call later, asked⟩

theorem operation_of_select (query : Query) (grounded : query.Grounded) (request : String) (specs : List ColumnSpec)
    (distinct : Bool) (success : (query.run (.select request specs distinct)).error = none) (after : List Call) :
    ((query.run (.select request specs distinct)).query.runAll after).operation = some (.select distinct) := by
  have kept := grows_runAll _ (grounded.run query (.select request specs distinct)) after
  apply kept.operation
  have step := query.step_of_succeeded _ success
  generalize (query.run (.select request specs distinct)).query = later at step
  cases step
  rfl

/-- Behind a select without columns that succeeds, whatever is called before and after it, the text is that of a select
from the base table. Its list has a star exactly if no call puts a column into it, or a star is asked for as a column.
Otherwise it has the columns alone that selects ask for. -/
theorem wildcard_iff (before after : List Call) (request : String)
    (success : ((({} : Query).runAll before).run (.select request [] false)).error = none) :
    let calls := before ++ .select request [] false :: after
    let query := ({} : Query).runAll calls
    (∃ rest, query.generate = .ok ("SELECT " ++ ", ".intercalate query.entries ++ " FROM " ++ rest)) ∧
      ("*" ∈ query.entries ↔ ({} : Query).namesAny calls = false ∨
        ∃ column ∈ query.columns, column.name = "*" ∧ column.aliasName = none) ∧
      ∀ column ∈ query.columns, ∃ request specs distinct, .select request specs distinct ∈ calls ∧
        ⟨column.name, column.aliasName⟩ ∈ specs := by
  intro calls query
  have set : query.operation = some (.select false) := by
    have split : query = ((({} : Query).runAll before).run (.select request [] false)).query.runAll after := by
      rw [← runAll_cons, ← runAll_append]
    rw [split]
    exact operation_of_select _ (grounded_runAll before) request [] false success after
  have keywords : (Operation.select false).keywords ++ " " = "SELECT " := by decide
  refine ⟨?_, ?_, ?_⟩
  · have written := query.generate_eq_entries (grounded_runAll calls) _ set
    rwa [keywords] at written
  · have empty := columns_runAll_eq_nil_iff {} calls
    rw [star_mem_entries_iff, empty]
    simp only [true_and]
  · intro column member
    exact (asked_of_mem_runAll {} calls column member).resolve_left List.not_mem_nil

/-- Columns were there before, and the star was asked for once more, as a column. -/
theorem wildcard_iff_asked :
    let before := [Call.filter .and "orders.id" (.typed .gt) (.integer 7), .select "users" [⟨"id", none⟩] false]
    let after := [Call.join "orders" "users.id" "orders.buyer", .select "users" [⟨"*", none⟩] false]
    let query := ({} : Query).runAll (before ++ .select "users" [] false :: after)
    ((({} : Query).runAll before).run (.select "users" [] false)).error = none ∧
      ({} : Query).namesAny (before ++ .select "users" [] false :: after) = true ∧
      query.entries = ["users.id", "*"] ∧
      ∃ rest, query.generate = .ok ("SELECT " ++ ", ".intercalate query.entries ++ " FROM " ++ rest) := by
  intro before after query
  have success : ((({} : Query).runAll before).run (.select "users" [] false)).error = none := by decide +kernel
  have written := (wildcard_iff before after "users" success).1
  exact ⟨success, by decide +kernel, by decide +kernel, written⟩

/-- A column that is asked for by name stands in the place of all. -/
theorem wildcard_lost :
    ¬ ∀ (schema : String → List String) (before after : List Call) (request : String),
      ((({} : Query).runAll before).run (.select request [] false)).error = none →
        let query := ({} : Query).runAll (before ++ .select request [] false :: after)
        "*" ∈ query.entries ∨ ∀ name ∈ schema request, ∃ column ∈ query.columns, column.name = name := by
  intro always
  have kept := always (fun _ => ["id", "name"]) [] [.select "users" [⟨"id", none⟩] false] "users" (by decide +kernel)
  revert kept
  decide +kernel

end Query
end SqlSelect

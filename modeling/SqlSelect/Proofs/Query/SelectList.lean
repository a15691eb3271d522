import Mathlib.Data.List.Induction
import Mathlib.Data.List.Nodup
import SqlSelect.Proofs.Query.Run

namespace SqlSelect

def ColumnSpec.column (table : Nat) (spec : ColumnSpec) : Column := ⟨spec.name, spec.aliasName, table⟩

namespace Selection

def Lists (columns : List Column) (table : Nat) (name : String) : Prop :=
  ∃ column ∈ columns, column.table = table ∧ column.name = name

def Labels (columns : List Column) (aliasName : String) : Prop :=
  ∃ column ∈ columns, column.aliasName = some aliasName

instance (columns : List Column) (table : Nat) (name : String) : Decidable (Lists columns table name) :=
  inferInstanceAs (Decidable (∃ column ∈ columns, column.table = table ∧ column.name = name))

inductive Adds (table : Nat) (columns : List Column) (spec : ColumnSpec) :
    Except QueryError (List Column × List Event) → Prop where
  | blank (unnamed : Text.isAllBlank spec.name = true) :
    Adds table columns spec (.error (.invalidReference .emptyColumn))
  | repeated (events : List Event) (named : Text.isAllBlank spec.name = false)
    (listed : Lists columns table spec.name) : Adds table columns spec (.ok (columns, events))
  | taken (aliasName : String) (named : Text.isAllBlank spec.name = false) (new : ¬ Lists columns table spec.name)
    (asked : spec.aliasName = some aliasName) (held : Labels columns aliasName) :
    Adds table columns spec (.error (.duplicateColumnAlias aliasName))
  | new (events : List Event) (named : Text.isAllBlank spec.name = false) (new : ¬ Lists columns table spec.name)
    (free : ∀ aliasName, spec.aliasName = some aliasName → ¬ Labels columns aliasName) :
    Adds table columns spec (.ok (columns ++ [spec.column table], events))

theorem adds_add (registry : Registry) (table : Nat) (columns : List Column) (spec : ColumnSpec) :
    Adds table columns spec (add registry table columns spec) := by
  obtain ⟨name, aliasName⟩ := spec
  unfold add
  split
  · rename_i unnamed
    exact .blank unnamed
  · rename_i named
    rw [Bool.not_eq_true] at named
    split
    · rename_i listed
      exact .repeated _ named (by simpa [Lists] using listed)
    · rename_i new
      have unlisted : ¬ Lists columns table name := by simpa [Lists] using new
      cases aliasName with
      | none => exact .new _ named unlisted (by simp)
      | some aliasName =>
        simp only
        split
        · rename_i held
          exact .taken aliasName named unlisted rfl (by simpa [Labels] using held)
        · rename_i free
          exact .new _ named unlisted (by simpa [Labels] using free)

structure Proper (columns : List Column) : Prop where
  once : (columns.map fun column => (column.table, column.name)).Nodup
  labels : (columns.filterMap (·.aliasName)).Nodup
  named : ∀ column ∈ columns, Text.isAllBlank column.name = false

theorem proper_nil : Proper [] := ⟨List.nodup_nil, List.nodup_nil, by simp⟩

theorem Proper.push (columns : List Column) (proper : Proper columns) (table : Nat) (spec : ColumnSpec)
    (named : Text.isAllBlank spec.name = false) (new : ¬ Lists columns table spec.name)
    (free : ∀ aliasName, spec.aliasName = some aliasName → ¬ Labels columns aliasName) :
    Proper (columns ++ [spec.column table]) := by
  constructor
  case once =>
    rw [List.map_append, List.map_singleton, List.nodup_append]
    refine ⟨proper.once, by simp, ?_⟩
    rintro left member right last rfl
    obtain ⟨column, inside, same⟩ := List.mem_map.mp member
    rw [List.mem_singleton.mp last, Prod.mk.injEq] at same
    exact new ⟨column, inside, same⟩
  case labels =>
    rw [List.filterMap_append, List.nodup_append]
    refine ⟨proper.labels, ?_, ?_⟩
    · cases asked : (spec.column table).aliasName <;> simp [asked]
    · rintro left member right last rfl
      obtain ⟨column, inside, same⟩ := List.mem_filterMap.mp member
      obtain ⟨other, singleton, asked⟩ := List.mem_filterMap.mp last
      rw [List.mem_singleton.mp singleton] at asked
      exact free left asked ⟨column, inside, same⟩
  case named =>
    intro column member
    rcases List.mem_append.mp member with member | member
    · exact proper.named column member
    · rw [List.mem_singleton.mp member]
      exact named

theorem Proper.add (registry : Registry) (table : Nat) (columns later : List Column) (proper : Proper columns)
    (spec : ColumnSpec) (events : List Event) (success : add registry table columns spec = .ok (later, events)) :
    Proper later := by
  have adds := adds_add registry table columns spec
  rw [success] at adds
  cases adds with
  | repeated _ _ _ => exact proper
  | new _ named new free => exact proper.push columns table spec named new free

theorem Proper.addAll (registry : Registry) (table : Nat) (columns : List Column) (proper : Proper columns)
    (specs : List ColumnSpec) : Proper (addAll registry table columns specs).columns := by
  induction specs generalizing columns with
  | nil => exact proper
  | cons spec specs ih =>
    rw [Selection.addAll]
    split
    · exact proper
    · rename_i later events success
      exact ih later (proper.add registry table columns later spec events success)

section Call

variable (table : Nat) (columns : List Column)

def Repeats (earlier : List ColumnSpec) (spec : ColumnSpec) : Prop :=
  Lists columns table spec.name ∨ ∃ other ∈ earlier, other.name = spec.name

instance (earlier : List ColumnSpec) (spec : ColumnSpec) : Decidable (Repeats table columns earlier spec) :=
  inferInstanceAs (Decidable (_ ∨ ∃ other ∈ earlier, other.name = spec.name))

def addedBehind (earlier : List ColumnSpec) : List ColumnSpec → List Column
  | [] => []
  | spec :: specs =>
    if Repeats table columns earlier spec then addedBehind (earlier ++ [spec]) specs
    else spec.column table :: addedBehind (earlier ++ [spec]) specs

def added (specs : List ColumnSpec) : List Column := addedBehind table columns [] specs

/-- Why an entry is refused behind earlier ones of its call: its name is blank, or it asks for a new column under an
alias that a column before it has. -/
inductive Refuses (earlier : List ColumnSpec) (spec : ColumnSpec) : QueryError → Prop where
  | blank (unnamed : Text.isAllBlank spec.name = true) : Refuses earlier spec (.invalidReference .emptyColumn)
  | taken (aliasName : String) (named : Text.isAllBlank spec.name = false)
    (new : ¬ Repeats table columns earlier spec) (asked : spec.aliasName = some aliasName)
    (held : Labels (columns ++ added table columns earlier) aliasName) :
    Refuses earlier spec (.duplicateColumnAlias aliasName)

def Accepts (specs : List ColumnSpec) : Prop :=
  ∀ before spec after, specs = before ++ spec :: after → ∀ fault, ¬ Refuses table columns before spec fault

theorem addedBehind_append (earlier specs : List ColumnSpec) (spec : ColumnSpec) :
    addedBehind table columns earlier (specs ++ [spec]) =
      addedBehind table columns earlier specs ++
        if Repeats table columns (earlier ++ specs) spec then [] else [spec.column table] := by
  induction specs generalizing earlier with
  | nil => by_cases again : Repeats table columns earlier spec <;> simp [addedBehind, again]
  | cons first specs ih =>
    rw [List.cons_append, addedBehind, addedBehind, ih (earlier ++ [first]), List.append_assoc, List.singleton_append]
    by_cases again : Repeats table columns earlier first
    · rw [if_pos again, if_pos again]
    · rw [if_neg again, if_neg again, List.cons_append]

theorem added_append (specs : List ColumnSpec) (spec : ColumnSpec) :
    added table columns (specs ++ [spec]) =
      added table columns specs ++ if Repeats table columns specs spec then [] else [spec.column table] := by
  rw [added, addedBehind_append, List.nil_append]
  rfl

theorem lists_append (left right : List Column) (name : String) :
    Lists (left ++ right) table name ↔ Lists left table name ∨ Lists right table name := by
  simp only [Lists, List.mem_append, or_and_right, exists_or]

/-- Behind the entries of a call the list holds the columns that it held and those that they asked for. -/
theorem lists_added_iff (specs : List ColumnSpec) (spec : ColumnSpec) :
    Lists (columns ++ added table columns specs) table spec.name ↔ Repeats table columns specs spec := by
  induction specs using List.reverseRecOn with
  | nil => simp [added, addedBehind, Repeats]
  | append_singleton specs last ih =>
    have asked : Repeats table columns (specs ++ [last]) spec ↔
        Repeats table columns specs spec ∨ last.name = spec.name := by
      simp only [Repeats, List.mem_append, List.mem_singleton, or_and_right, exists_or, exists_eq_left, or_assoc]
    rw [asked, added_append, ← List.append_assoc, lists_append, ih]
    by_cases again : Repeats table columns specs last
    · rw [if_pos again]
      constructor
      · rintro (before | ⟨column, none_added, _⟩)
        · exact .inl before
        · cases none_added
      · rintro (before | same)
        · exact .inl before
        · rw [Repeats, same] at again
          exact .inl again
    · rw [if_neg again]
      simp [Lists, ColumnSpec.column]

variable (registry : Registry)

theorem add_of_refuses (before : List ColumnSpec) (spec : ColumnSpec) (fault : QueryError)
    (refused : Refuses table columns before spec fault) :
    add registry table (columns ++ added table columns before) spec = .error fault := by
  have adds := adds_add registry table (columns ++ added table columns before) spec
  generalize add registry table (columns ++ added table columns before) spec = result at adds
  cases refused with
  | blank unnamed =>
    cases adds with
    | blank _ => rfl
    | repeated _ named | taken _ named | new _ named =>
      rw [unnamed] at named
      cases named
  | taken aliasName named new asked held =>
    rw [← lists_added_iff] at new
    cases adds with
    | blank unnamed =>
      rw [named] at unnamed
      cases unnamed
    | repeated _ _ listed => exact absurd listed new
    | taken other _ _ same _ =>
      rw [asked] at same
      cases same
      rfl
    | new _ _ _ free => exact absurd held (free aliasName asked)

theorem add_of_not_refused (before : List ColumnSpec) (spec : ColumnSpec)
    (sound : ∀ fault, ¬ Refuses table columns before spec fault) :
    ∃ events, add registry table (columns ++ added table columns before) spec =
      .ok (columns ++ added table columns (before ++ [spec]), events) := by
  have adds := adds_add registry table (columns ++ added table columns before) spec
  generalize add registry table (columns ++ added table columns before) spec = result at adds
  rw [added_append, ← List.append_assoc]
  cases adds with
  | blank unnamed => exact absurd (.blank unnamed) (sound _)
  | repeated events _ listed =>
    rw [if_pos ((lists_added_iff table columns before spec).mp listed), List.append_nil]
    exact ⟨events, rfl⟩
  | taken aliasName named new asked held =>
    rw [lists_added_iff] at new
    exact absurd (.taken aliasName named new asked held) (sound _)
  | new events _ new _ =>
    rw [lists_added_iff] at new
    rw [if_neg new]
    exact ⟨events, rfl⟩

theorem addAll_append (left right : List ColumnSpec) (success : (addAll registry table columns left).error = none) :
    addAll registry table columns (left ++ right) =
      let first := addAll registry table columns left
      let rest := addAll registry table first.columns right
      ⟨rest.columns, first.events ++ rest.events, rest.error⟩ := by
  induction left generalizing columns with
  | nil => rfl
  | cons spec left ih =>
    cases added : add registry table columns spec with
    | error fault => simp [addAll, added] at success
    | ok later =>
      simp only [addAll, added] at success
      simp only [List.cons_append, addAll, added, ih later.1 success, List.append_assoc]

theorem Accepts.front (specs : List ColumnSpec) (spec : ColumnSpec)
    (accepted : Accepts table columns (specs ++ [spec])) :
    Accepts table columns specs ∧ ∀ fault, ¬ Refuses table columns specs spec fault := by
  constructor
  · rintro before last after rfl
    exact accepted before last (after ++ [spec]) (by simp)
  · exact accepted specs spec [] rfl

theorem addAll_of_accepts (specs : List ColumnSpec) (accepted : Accepts table columns specs) :
    (addAll registry table columns specs).error = none ∧
      (addAll registry table columns specs).columns = columns ++ added table columns specs := by
  induction specs using List.reverseRecOn with
  | nil => exact ⟨rfl, (List.append_nil columns).symm⟩
  | append_singleton specs spec ih =>
    obtain ⟨front, sound⟩ := accepted.front
    obtain ⟨success, listed⟩ := ih front
    obtain ⟨events, added⟩ := add_of_not_refused table columns registry specs spec sound
    rw [addAll_append table columns registry specs [spec] success]
    simp only [listed, addAll, added, and_self]

theorem addAll_of_refuses (before : List ColumnSpec) (spec : ColumnSpec) (after : List ColumnSpec)
    (fault : QueryError) (accepted : Accepts table columns before) (refused : Refuses table columns before spec fault) :
    (addAll registry table columns (before ++ spec :: after)).error = some fault := by
  obtain ⟨success, listed⟩ := addAll_of_accepts table columns registry before accepted
  rw [addAll_append table columns registry before (spec :: after) success]
  simp only [listed, addAll, add_of_refuses table columns registry before spec fault refused]

/-- The entries of a call are all accepted, or there is a first that is refused. -/
theorem accepts_or_refuses (specs : List ColumnSpec) :
    Accepts table columns specs ∨
      ∃ before spec after fault, specs = before ++ spec :: after ∧ Accepts table columns before ∧
        Refuses table columns before spec fault := by
  induction specs using List.reverseRecOn with
  | nil => exact .inl fun before spec after same => by simp at same
  | append_singleton specs spec ih =>
    rcases ih with accepted | ⟨before, first, after, fault, rfl, accepted, refused⟩
    · by_cases sound : ∀ fault, ¬ Refuses table columns specs spec fault
      · refine .inl ?_
        intro before last after same
        rcases after.eq_nil_or_concat with rfl | ⟨rest, final, rfl⟩
        · obtain ⟨rfl, single⟩ := List.append_inj' same rfl
          cases single
          exact sound
        · rw [List.concat_eq_append, ← List.cons_append, ← List.append_assoc] at same
          exact accepted before last rest (List.append_inj' same rfl).1
      · push Not at sound
        obtain ⟨fault, refused⟩ := sound
        exact .inr ⟨specs, spec, [], fault, rfl, accepted, refused⟩
    · exact .inr ⟨before, first, after ++ [spec], fault, by simp, accepted, refused⟩

theorem error_eq_none_iff (specs : List ColumnSpec) :
    (addAll registry table columns specs).error = none ↔ Accepts table columns specs := by
  constructor
  · intro success
    rcases accepts_or_refuses table columns specs with accepted | ⟨before, spec, after, fault, rfl, accepted, refused⟩
    · exact accepted
    · rw [addAll_of_refuses table columns registry before spec after fault accepted refused] at success
      cases success
  · exact fun accepted => (addAll_of_accepts table columns registry specs accepted).1

theorem error_eq_some_iff (specs : List ColumnSpec) (fault : QueryError) :
    (addAll registry table columns specs).error = some fault ↔
      ∃ before spec after, specs = before ++ spec :: after ∧ Accepts table columns before ∧
        Refuses table columns before spec fault := by
  constructor
  · intro failed
    rcases accepts_or_refuses table columns specs with accepted | ⟨before, spec, after, cause, rfl, accepted, refused⟩
    · rw [(addAll_of_accepts table columns registry specs accepted).1] at failed
      cases failed
    · rw [addAll_of_refuses table columns registry before spec after cause accepted refused] at failed
      cases failed
      exact ⟨before, spec, after, rfl, accepted, refused⟩
  · rintro ⟨before, spec, after, rfl, accepted, refused⟩
    exact addAll_of_refuses table columns registry before spec after fault accepted refused

end Call
end Selection

namespace Query

theorem proper_run (query : Query) (call : Call) (proper : Selection.Proper query.columns) :
    Selection.Proper (query.run call).query.columns := by
  cases call with
  | select request columns distinct =>
    rcases select_cases query request columns distinct with same | ⟨_, resolved, _, left⟩
    · rwa [run, same]
    · rw [run, left]
      exact proper.addAll resolved.registry resolved.id query.columns columns
  | filter | openGroup | closeGroup | join | groupBy | setDialect | setQualify =>
    rwa [(query.kept_of_other _ rfl).2.2]

theorem columns_of_select (query : Query) (request : String) (specs : List ColumnSpec) (distinct : Bool)
    (started : query.operation.isSome = true) (success : (query.run (.select request specs distinct)).error = none) :
    ∃ resolved, query.operation = some (.select distinct) ∧ query.tables.resolve request true = .ok resolved ∧
      (query.run (.select request specs distinct)).query.columns =
        query.columns ++ Selection.added resolved.id query.columns specs := by
  rw [run] at success ⊢
  rcases query.fits_or_conflict distinct with fits | ⟨current, set, differs⟩
  · have same : query.operation = some (.select distinct) := by
      rcases fits with unset | same
      · rw [unset] at started
        cases started
      · exact same
    rw [select_of_fits query request specs distinct fits] at success ⊢
    cases found : query.tables.resolve request true with
    | error fault =>
      rw [found] at success
      cases success
    | ok resolved =>
      rw [found] at success
      refine ⟨resolved, same, rfl, ?_⟩
      have accepted := (Selection.error_eq_none_iff resolved.id query.columns resolved.registry specs).mp success
      exact (Selection.addAll_of_accepts resolved.id query.columns resolved.registry specs accepted).2
  · rw [select_of_conflict query request specs distinct current set differs] at success
    cases success

/-- In the select list that any calls built, failed ones included, no column of a table comes twice, no two columns have
one alias, and no name is blank. A select that found its table succeeds exactly if none of its entries is refused. Then
it adds those whose column is neither in the list nor asked for earlier in the call, in order and each with its own
alias. Otherwise the first entry that is refused decides the error. -/
theorem select_list_of_run (calls : List Call) :
    let query := ({} : Query).runAll calls
    Selection.Proper query.columns ∧
      ∀ request specs distinct resolved,
        query.operation = none ∨ query.operation = some (.select distinct) →
        query.tables.resolve request true = .ok resolved →
        let outcome := query.run (.select request specs distinct)
        (outcome.error = none ↔ Selection.Accepts resolved.id query.columns specs) ∧
          (outcome.error = none →
            outcome.query.columns = query.columns ++ Selection.added resolved.id query.columns specs) ∧
          ∀ fault, outcome.error = some fault ↔
            ∃ before spec after, specs = before ++ spec :: after ∧ Selection.Accepts resolved.id query.columns before ∧
              Selection.Refuses resolved.id query.columns before spec fault := by
  intro query
  constructor
  · exact runAll_induction (fun query => Selection.Proper query.columns) {} Selection.proper_nil proper_run calls
  · intro request specs distinct resolved fits found outcome
    have ends : outcome = query.extended resolved specs distinct := by
      have selected := select_of_fits query request specs distinct fits
      rwa [found] at selected
    have succeeds := Selection.error_eq_none_iff resolved.id query.columns resolved.registry specs
    rw [ends]
    refine ⟨succeeds, ?_, Selection.error_eq_some_iff resolved.id query.columns resolved.registry specs⟩
    intro success
    exact (Selection.addAll_of_accepts resolved.id query.columns resolved.registry specs (succeeds.mp success)).2

/-- An alias that is taken does no harm to an entry whose column was asked for before. -/
theorem select_list_of_run_repeated :
    let query := ({} : Query).runAll [.select "users u" [⟨"id", some "key"⟩] false, .join "orders" "id" "orders.buyer"]
    let specs := [⟨"id", some "other"⟩, ⟨"name", some "label"⟩, ⟨"name", some "key"⟩, ⟨"age", none⟩]
    let outcome := query.run (.select "users" specs false)
    query.operation = some (.select false) ∧
      query.tables.resolve "users" true = .ok ⟨0, query.tables, .tableReused "users" "u"⟩ ∧
      outcome.error = none ∧
      outcome.query.columns = query.columns ++ [⟨"name", some "label", 0⟩, ⟨"age", none, 0⟩] := by
  intro query specs outcome
  have started : query.operation = some (.select false) := by rfl
  have found : query.tables.resolve "users" true = .ok ⟨0, query.tables, .tableReused "users" "u"⟩ := by
    decide +kernel
  have success : outcome.error = none := by decide +kernel
  have listed := ((select_list_of_run _).2 "users" specs false _ (.inr started) found).2.1 success
  exact ⟨started, found, success, listed⟩

end Query
end SqlSelect

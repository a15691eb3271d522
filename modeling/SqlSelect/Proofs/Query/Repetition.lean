import SqlSelect.Proofs.Query.Growth
import SqlSelect.Proofs.Query.SelectList

namespace SqlSelect

def Outcome.EndsLike (outcome other : Outcome) : Prop :=
  outcome.query = other.query ∧ outcome.error = other.error

namespace Selection

theorem Lists.mono (columns later : List Column) (table : Nat) (name : String) (listed : Lists columns table name)
    (grown : columns <+: later) : Lists later table name := by
  obtain ⟨column, member, same⟩ := listed
  exact ⟨column, grown.subset member, same⟩

variable (registry : Registry) (table : Nat) (columns : List Column)

theorem add_of_listed (spec : ColumnSpec) (named : Text.isAllBlank spec.name = false)
    (listed : Lists columns table spec.name) : ∃ events, add registry table columns spec = .ok (columns, events) := by
  have adds := adds_add registry table columns spec
  generalize add registry table columns spec = result at adds
  cases adds with
  | blank unnamed =>
    rw [named] at unnamed
    cases unnamed
  | repeated events _ _ => exact ⟨events, rfl⟩
  | taken _ _ new _ _ | new _ _ new _ => exact absurd listed new

theorem addAll_of_listed (specs : List ColumnSpec)
    (listed : ∀ spec ∈ specs, Text.isAllBlank spec.name = false ∧ Lists columns table spec.name) :
    (addAll registry table columns specs).columns = columns ∧ (addAll registry table columns specs).error = none := by
  induction specs with
  | nil => exact ⟨rfl, rfl⟩
  | cons spec specs ih =>
    obtain ⟨named, first⟩ := listed spec List.mem_cons_self
    obtain ⟨events, added⟩ := add_of_listed registry table columns spec named first
    simp only [addAll, added]
    exact ih fun other member => listed other (List.mem_cons_of_mem spec member)

theorem listed_of_addAll (specs : List ColumnSpec) (success : (addAll registry table columns specs).error = none) :
    ∀ spec ∈ specs, Text.isAllBlank spec.name = false ∧
      Lists (addAll registry table columns specs).columns table spec.name := by
  have accepted := (error_eq_none_iff table columns registry specs).mp success
  intro spec member
  constructor
  · obtain ⟨before, after, split⟩ := List.append_of_mem member
    have sound := accepted before spec after split
    rw [← Bool.not_eq_true]
    exact fun unnamed => sound _ (.blank unnamed)
  · rw [(addAll_of_accepts table columns registry specs accepted).2, lists_added_iff]
    exact .inr ⟨spec, member, rfl⟩

/-- Behind an entry that is refused nothing is read. -/
theorem addAll_append_of_failed (left right : List ColumnSpec)
    (failed : (addAll registry table columns left).error ≠ none) :
    addAll registry table columns (left ++ right) = addAll registry table columns left := by
  induction left generalizing columns with
  | nil => exact absurd rfl failed
  | cons spec left ih =>
    cases added : add registry table columns spec with
    | error fault => simp only [List.cons_append, addAll, added]
    | ok later =>
      simp only [addAll, added] at failed
      simp only [List.cons_append, addAll, added, ih later.1 failed]

end Selection

namespace Query

theorem select_of_found (query : Query) (request : String) (columns : List ColumnSpec) (distinct : Bool)
    (resolved : Resolved) (fits : query.operation = none ∨ query.operation = some (.select distinct))
    (found : query.tables.resolve request true = .ok resolved) :
    query.select request columns distinct = query.extended resolved columns distinct := by
  rw [select_of_fits query request columns distinct fits, found]

theorem select_of_known (query : Query) (request : String) (columns : List ColumnSpec) (distinct : Bool) (id : Nat)
    (event : Event) (set : query.operation = some (.select distinct))
    (known : query.tables.resolve request true = .ok ⟨id, query.tables, event⟩) :
    let selection := Selection.addAll query.tables id query.columns columns
    (query.select request columns distinct).query = { query with columns := selection.columns } ∧
      (query.select request columns distinct).error = selection.error := by
  intro selection
  rw [select_of_found query request columns distinct _ (.inr set) known]
  refine ⟨?_, rfl⟩
  simp only [extended, selected, set, Option.isSome_some, if_true]
  rw [← set]

/-- A select of one table, made again for entries that are all in the list. -/
theorem select_of_listed (query : Query) (request : String) (columns : List ColumnSpec) (distinct : Bool) (id : Nat)
    (event : Event) (set : query.operation = some (.select distinct))
    (known : query.tables.resolve request true = .ok ⟨id, query.tables, event⟩)
    (listed : ∀ spec ∈ columns, Text.isAllBlank spec.name = false ∧ Selection.Lists query.columns id spec.name) :
    (query.select request columns distinct).EndsLike (query.done []) := by
  obtain ⟨left, error⟩ := query.select_of_known request columns distinct id event set known
  obtain ⟨same, success⟩ := Selection.addAll_of_listed query.tables id query.columns columns listed
  rw [same] at left
  exact ⟨left, error.trans success⟩

theorem select_append_of_failed (query : Query) (request : String) (left right : List ColumnSpec) (distinct : Bool)
    (failed : (query.select request left distinct).error ≠ none) :
    (query.select request (left ++ right) distinct).EndsLike (query.select request left distinct) := by
  rcases query.fits_or_conflict distinct with fits | ⟨current, set, differs⟩
  · have outcome := fun columns => select_of_fits query request columns distinct fits
    cases result : query.tables.resolve request true with
    | error fault =>
      simp only [result] at outcome
      rw [outcome, outcome]
      exact ⟨rfl, rfl⟩
    | ok resolved =>
      simp only [result] at outcome
      rw [outcome] at failed
      rw [outcome, outcome]
      have same := Selection.addAll_append_of_failed resolved.registry resolved.id query.columns left right failed
      simp only [extended, selected, same]
      exact ⟨rfl, rfl⟩
  · have outcome := fun columns => select_of_conflict query request columns distinct current set differs
    rw [outcome, outcome]
    exact ⟨rfl, rfl⟩

section Succeeded

variable (query : Query) (request : String) (left : List ColumnSpec) (distinct : Bool)
  (success : (query.select request left distinct).error = none)

include success

theorem select_of_succeeded : ∃ resolved, query.tables.resolve request true = .ok resolved ∧
    (query.operation = none ∨ query.operation = some (.select distinct)) ∧
    (Selection.addAll resolved.registry resolved.id query.columns left).error = none ∧
    (query.select request left distinct).query = query.selected resolved left distinct := by
  rcases query.fits_or_conflict distinct with fits | ⟨current, set, differs⟩
  · rw [select_of_fits query request left distinct fits] at success ⊢
    cases found : query.tables.resolve request true with
    | error fault => simp [found, failed] at success
    | ok resolved =>
      rw [found] at success
      exact ⟨resolved, rfl, fits, success, rfl⟩
  · rw [select_of_conflict query request left distinct current set differs] at success
    cases success

theorem select_append_of_succeeded (right : List ColumnSpec) :
    (query.select request (left ++ right) distinct).EndsLike
      ((query.select request left distinct).query.select request right distinct) := by
  obtain ⟨resolved, found, fits, listed, ends⟩ := query.select_of_succeeded request left distinct success
  have again := Registry.resolve_again query.tables request true resolved found
  obtain ⟨later, error⟩ :=
    (query.selected resolved left distinct).select_of_known request right distinct resolved.id _ rfl again
  have parts := Selection.addAll_append resolved.id query.columns resolved.registry left right listed
  rw [ends, select_of_found query request (left ++ right) distinct resolved fits found]
  constructor
  · rw [later, extended, selected, parts]
    rfl
  · rw [error, extended, parts]
    rfl

theorem select_again (later : Query) (event : Event) (grows : (query.select request left distinct).query.Grows later)
    (known : ∀ resolved, query.tables.resolve request true = .ok resolved →
      later.tables.resolve request true = .ok ⟨resolved.id, later.tables, event⟩) :
    (later.select request left distinct).EndsLike (later.done []) := by
  obtain ⟨resolved, found, _, listed, ends⟩ := query.select_of_succeeded request left distinct success
  rw [ends] at grows
  apply later.select_of_listed request left distinct resolved.id event (grows.operation _ rfl) (known resolved found)
  intro spec member
  have added := Selection.listed_of_addAll resolved.registry resolved.id query.columns left listed
  obtain ⟨named, first⟩ := added spec member
  exact ⟨named, first.mono _ later.columns resolved.id spec.name grows.columns⟩

end Succeeded

/-- In every query that calls built a select may be split in two, the second part of which is only made if the first
succeeds. One that succeeded changes nothing when it is made again: at once, and, if its table has no alias, after any
other calls. -/
theorem select_in_parts (calls : List Call) (request : String) (left right : List ColumnSpec) (distinct : Bool) :
    let query := ({} : Query).runAll calls
    let whole := query.select request (left ++ right) distinct
    let first := query.select request left distinct
    (first.error ≠ none → whole.EndsLike first) ∧
      (first.error = none →
        whole.EndsLike (first.query.select request right distinct) ∧
          (first.query.select request left distinct).EndsLike (first.query.done []) ∧
          (TableRequest.isBare request = true → ∀ more,
            let later := first.query.runAll more
            (later.select request left distinct).EndsLike (later.done []))) := by
  intro query whole first
  refine ⟨query.select_append_of_failed request left right distinct, ?_⟩
  intro success
  obtain ⟨resolved, found, _, _, ends⟩ := query.select_of_succeeded request left distinct success
  have tables : first.query.tables = resolved.registry := by rw [ends, selected]
  refine ⟨query.select_append_of_succeeded request left distinct success right, ?_, ?_⟩
  · apply query.select_again request left distinct success first.query _ (Grows.refl first.query)
    intro other same
    rw [found] at same
    cases same
    rw [tables]
    exact Registry.resolve_again query.tables request true resolved found
  · intro bare more later
    have grounded := (grounded_runAll calls).run query (.select request left distinct)
    obtain ⟨requests, grown⟩ := first.query.tables_runAll more
    rw [tables] at grown
    obtain ⟨event, again⟩ := Registry.resolve_later query.tables request true resolved found bare later.tables
      ⟨requests, grown⟩
    apply query.select_again request left distinct success later event (first.query.grows_runAll grounded more)
    intro other same
    rw [found] at same
    cases same
    exact again

/-- The table is registered under a numbered alias, and found under it again behind one that is declared under its
name. -/
theorem select_in_parts_numbered :
    let query := ({} : Query).runAll [.join "users m" "m.id" "m.boss"]
    let first := query.select "users" [⟨"id", some "key"⟩, ⟨"id", none⟩] true
    let later := first.query.runAll [.select "accounts AS users" [] true, .filter .and "users.x" (.spelled "?") .null]
    first.error = none ∧
      (query.select "users" [⟨"id", some "key"⟩, ⟨"id", none⟩, ⟨"name", some "key"⟩] true).EndsLike
        (first.query.select "users" [⟨"name", some "key"⟩] true) ∧
      TableRequest.isBare "users" = true ∧
      (later.select "users" [⟨"id", some "key"⟩, ⟨"id", none⟩] true).EndsLike (later.done []) := by
  intro query first later
  have success : first.error = none := by decide +kernel
  have bare : TableRequest.isBare "users" = true := by decide
  obtain ⟨split, _, repeated⟩ := (select_in_parts [.join "users m" "m.id" "m.boss"] "users"
    [⟨"id", some "key"⟩, ⟨"id", none⟩] [⟨"name", some "key"⟩] true).2 success
  exact ⟨success, split, bare, repeated bare _⟩

end Query
end SqlSelect

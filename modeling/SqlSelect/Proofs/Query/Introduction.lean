import Mathlib.Data.List.Nodup
import SqlSelect.Proofs.Query.Failure
import SqlSelect.Proofs.Query.Step
import SqlSelect.Proofs.Query.Tables
import SqlSelect.Proofs.Statement.Outline
import SqlSelect.Proofs.Statement.Reference

namespace SqlSelect.Query

def introduced (query : Query) : List Nat := query.base.toList ++ query.joints.map (·.table)

def introductions (query : Query) : List String := query.introduced.map query.tables.aliasOf

/-- The table that a call makes the text introduce: the first select its base table, even if a column fails behind it,
and a join that succeeds its target. -/
def introduces? (query : Query) : Call → Option Nat
  | .select request _ _ =>
    match query.operation, query.tables.resolve request true with
    | none, .ok resolved => some resolved.id
    | _, _ => none
  | .join request left right =>
    match (query.join request left right).error, query.tables.resolve request false with
    | none, .ok target => some target.id
    | _, _ => none
  | _ => none

def introducedBy (query : Query) : List Call → List Nat
  | [] => []
  | call :: calls => (query.introduces? call).toList ++ (query.run call).query.introducedBy calls

theorem introduced_select (query : Query) (begun : query.Begun) (request : String) (columns : List ColumnSpec)
    (distinct : Bool) :
    (query.run (.select request columns distinct)).query.introduced.Perm
      (query.introduced ++ (query.introduces? (.select request columns distinct)).toList) := by
  have unset : query.operation = none → query.base = none := by
    intro missing
    cases fixed : query.base with
    | none => rfl
    | some id =>
      rw [Begun, missing, fixed] at begun
      cases begun
  simp only [run, introduces?]
  rcases query.fits_or_conflict distinct with fits | ⟨current, set, differs⟩
  · rw [select_of_fits query request columns distinct fits]
    cases found : query.tables.resolve request true with
    | error fault => cases query.operation <;> simp [failed]
    | ok resolved =>
      rcases fits with missing | started
      · simp only [extended, selected, introduced, missing, unset missing, Option.isSome_none]
        exact List.perm_append_comm
      · simp [extended, selected, introduced, started]
  · rw [select_of_conflict query request columns distinct current set differs]
    simp [failed, set]

theorem introduced_join (query : Query) (request left right : String) :
    (query.run (.join request left right)).query.introduced =
      query.introduced ++ (query.introduces? (.join request left right)).toList := by
  cases ended : (query.join request left right).error with
  | some fault =>
    rw [run, query.join_failed request left right fault ended]
    simp [introduces?, ended, introduced]
  | none =>
    have step := query.step_of_succeeded (.join request left right) ended
    generalize (query.run (.join request left right)).query = later at step
    cases step with
    | join _ _ _ target first second targeted opened closed =>
      simp [introduces?, ended, targeted, introduced]

theorem introduced_run (query : Query) (begun : query.Begun) (call : Call) :
    (query.run call).query.introduced.Perm (query.introduced ++ (query.introduces? call).toList) := by
  cases call with
  | select request columns distinct => exact query.introduced_select begun request columns distinct
  | filter chain reference operator value =>
    rcases filter_cases query chain reference operator value with same | ⟨known, found, _, _, left⟩
    · simp [run, same, introduces?]
    · simp [run, left, introduces?, introduced]
  | join request left right => rw [introduced_join]
  | groupBy request column =>
    rcases groupBy_cases query request column with same | ⟨resolved, _, left⟩
    · simp [run, same, introduces?]
    · simp [run, left, introduces?, introduced]
  | openGroup | closeGroup | setDialect | setQualify =>
    simp [run, openGroup, closeGroup, done, introduces?, introduced]

theorem introduced_runAll (query : Query) (grounded : query.Grounded) (calls : List Call) :
    (query.runAll calls).introduced.Perm (query.introduced ++ query.introducedBy calls) := by
  induction calls generalizing query with
  | nil => simp [introducedBy]
  | cons call calls ih =>
    have rest := ih _ (grounded.run query call)
    have first := query.introduced_run grounded.started call
    rw [runAll_cons, introducedBy, ← List.append_assoc]
    exact rest.trans (first.append_right _)

theorem introduced_lt (query : Query) (grounded : query.Grounded) (id : Nat) (member : id ∈ query.introduced) :
    id < query.tables.size := by
  rcases List.mem_append.mp member with base | joined
  · exact grounded.base id (Option.mem_toList.mp base)
  · obtain ⟨joint, inside, rfl⟩ := List.mem_map.mp joined
    exact grounded.joined joint inside

theorem nodup_introductions (query : Query) (grounded : query.Grounded) (named : query.tables.WellNamed) :
    query.introductions.Nodup ↔ query.introduced.Nodup := by
  constructor
  · exact List.Nodup.of_map _
  · apply List.Nodup.map_on
    intro first member second other same
    exact named.id_of_alias query.tables first second (query.introduced_lt grounded first member)
      (query.introduced_lt grounded second other) same

/-- A table that a request registers is not introduced yet. -/
theorem not_mem_introduced (query : Query) (grounded : query.Grounded) (request : String) (isRoot : Bool)
    (resolved : Resolved) (success : query.tables.resolve request isRoot = .ok resolved)
    (new : resolved.registry ≠ query.tables) : resolved.id ∉ query.introduced := by
  intro member
  have known := query.introduced_lt grounded resolved.id member
  rcases Registry.resolve_cases query.tables request isRoot resolved success with
    ⟨same, _⟩ | ⟨_, _, _, _, last, _⟩
  · exact new same
  · omega

/-- The aliases in FROM and JOIN are pairwise distinct exactly if the calls that introduce tables resolve to different
ones. A call that registers its table never clashes, so an alias is introduced again only by a call that reuses a
table. -/
theorem introductions_nodup_iff (calls : List Call) :
    let query := ({} : Query).runAll calls
    (query.introductions.Nodup ↔ (({} : Query).introducedBy calls).Nodup) ∧
      ∀ request isRoot resolved, query.tables.resolve request isRoot = .ok resolved →
        resolved.id ∈ query.introduced → resolved.registry = query.tables := by
  intro query
  have grounded : query.Grounded := grounded_runAll calls
  have order := introduced_runAll {} grounded_empty calls
  constructor
  · rw [nodup_introductions query grounded (wellNamed_runAll calls)]
    exact order.nodup_iff
  · intro request isRoot resolved success member
    by_contra new
    exact query.not_mem_introduced grounded request isRoot resolved success new member

/-- A table that is joined to itself under another alias is introduced twice under different ones, and a request for
that alias gets the joined table. -/
theorem introductions_nodup_iff_beside :
    let query := ({} : Query).runAll [.select "users" [⟨"name", none⟩] false,
      .join "users AS m" "users.manager_id" "m.id"]
    query.introductions.Nodup ∧ ∃ resolved, query.tables.resolve "m" false = .ok resolved ∧
      resolved.id ∈ query.introduced ∧ resolved.registry = query.tables := by
  intro query
  have introduction := introductions_nodup_iff [.select "users" [⟨"name", none⟩] false,
    .join "users AS m" "users.manager_id" "m.id"]
  have apart : query.introductions.Nodup := introduction.1.mpr (by decide +kernel)
  have found : query.tables.resolve "m" false = .ok ⟨1, query.tables, .tableReused "m" "m"⟩ := by decide +kernel
  have member : 1 ∈ query.introduced := by decide +kernel
  exact ⟨apart, _, found, member, introduction.2 "m" false _ found member⟩

/-- A table that is joined to itself is introduced twice under one alias. -/
theorem introduced_twice :
    ¬ ∀ calls sql, (({} : Query).runAll calls).generate = .ok sql →
      (({} : Query).runAll calls).introductions.Nodup := by
  intro always
  have distinct := always [.select "users" [⟨"name", none⟩] false, .join "users" "users.manager_id" "users.id"]
    "SELECT name FROM users JOIN users ON manager_id = id" (by decide +kernel)
  have both : (({} : Query).runAll [.select "users" [⟨"name", none⟩] false,
      .join "users" "users.manager_id" "users.id"]).introductions = ["users", "users"] := by decide +kernel
  rw [both] at distinct
  exact absurd distinct (by decide)

end SqlSelect.Query

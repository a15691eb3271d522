import Mathlib.Data.List.Induction
import SqlSelect.Proofs.Query.Failure
import SqlSelect.Proofs.Query.Growth
import SqlSelect.Proofs.Query.Naming

namespace SqlSelect

namespace Registry

theorem addsNoRoot_of_resolveColumn (registry : Registry) (base : Option Nat) (reference : String)
    (found : ResolvedColumn) (success : registry.resolveColumn base reference = .ok found) :
    registry.AddsNoRoot found.registry := by
  have added := registry.addsNoRoot_attemptColumn base reference
  rwa [attemptColumn, success] at added

def Unrooted (registry : Registry) : Prop := ∀ table ∈ registry.tables, table.isRoot = false

theorem Unrooted.extend (registry later : Registry) (unrooted : registry.Unrooted)
    (added : registry.AddsNoRoot later) : later.Unrooted := by
  obtain ⟨tables, grown, plain⟩ := added
  intro table member
  rw [grown] at member
  rcases List.mem_append.mp member with before | new
  · exact unrooted table before
  · exact plain table new

/-- A table that was there while none was a root can be had under no alias that is free: neither a select nor a join
may ask for its name under one. -/
theorem refused_of_unrooted (registry later : Registry) (unrooted : registry.Unrooted) (table : Table)
    (member : table ∈ registry.tables) (grown : registry.tables <+: later.tables) (aliasName : String)
    (free : aliasName ∉ later.aliases) (isRoot : Bool) :
    later.check ⟨table.basename, some aliasName⟩ isRoot =
      .error (.unresolvableTable table.basename aliasName) := by
  have unheld := (later.locate_alias_eq_none_iff aliasName).mpr free
  let named := fun other : Table => other.basename == table.basename && (isRoot || !other.isRoot)
  have names : named table = true := by simp [named, unrooted table member]
  obtain ⟨⟨id, first⟩, hit⟩ := registry.exists_locate_of_mem named table member names
  have plain : first.isRoot = false :=
    unrooted first (List.mem_of_getElem? (get?_of_locate registry named id first hit).1)
  have still : later.locate named = some (id, first) := locate_of_prefix registry later grown named _ hit
  simp only [check, resolveAliased, unheld]
  rw [show later.locate (fun other => other.basename == table.basename && (isRoot || !other.isRoot)) =
    some (id, first) from still]
  simp only [plain, Bool.false_eq_true, if_false]

end Registry

namespace Query

/-- Only a select that finds its table sets the operation and registers root tables. -/
theorem started_or_unrooted (query : Query) (call : Call) :
    (∃ request columns distinct resolved, call = .select request columns distinct ∧
        query.tables.resolve request true = .ok resolved ∧
        (query.run call).query = query.selected resolved columns distinct) ∨
      (query.run call).query.operation = query.operation ∧ query.tables.AddsNoRoot (query.run call).query.tables := by
  have none_added := Registry.AddsNoRoot.refl query.tables
  cases call with
  | select request columns distinct =>
    rcases select_cases query request columns distinct with same | ⟨_, resolved, found, left⟩
    · exact .inr (by rw [run, same]; exact ⟨rfl, none_added⟩)
    · exact .inl ⟨request, columns, distinct, resolved, rfl, found, left⟩
  | filter chain reference operator value =>
    rcases filter_cases query chain reference operator value with same | ⟨known, found, _, result, left⟩
    · exact .inr (by rw [run, same]; exact ⟨rfl, none_added⟩)
    · rw [run, left]
      exact .inr ⟨rfl, Registry.addsNoRoot_of_resolveColumn _ query.base reference found result⟩
  | join request left right =>
    rcases join_cases query request left right with same | ⟨target, targeted, later⟩
    · exact .inr (by rw [run, same]; exact ⟨rfl, none_added⟩)
    have joined := Registry.addsNoRoot_of_resolve query.tables request target targeted
    rcases later with same | ⟨first, opened, later⟩
    · exact .inr (by rw [run, same]; exact ⟨rfl, joined⟩)
    have read := joined.trans (Registry.addsNoRoot_of_resolveColumn _ query.base left first opened)
    rcases later with same | ⟨second, closed, same⟩
    · exact .inr (by rw [run, same]; exact ⟨rfl, read⟩)
    · rw [run, same]
      exact .inr ⟨rfl, read.trans (Registry.addsNoRoot_of_resolveColumn _ query.base right second closed)⟩
  | groupBy request column =>
    rcases groupBy_cases query request column with same | ⟨resolved, found, left⟩
    · exact .inr (by rw [run, same]; exact ⟨rfl, none_added⟩)
    · rw [run, left]
      exact .inr ⟨rfl, Registry.addsNoRoot_of_resolve query.tables request resolved found⟩
  | openGroup | closeGroup | setDialect | setQualify => exact .inr ⟨rfl, none_added⟩

theorem unrooted_of_unset (calls : List Call) (unset : (({} : Query).runAll calls).operation = none) :
    (({} : Query).runAll calls).tables.Unrooted := by
  revert unset
  apply runAll_induction (fun query => query.operation = none → query.tables.Unrooted)
  · intro _ table member
    cases member
  · intro query call unrooted unset
    rcases query.started_or_unrooted call with ⟨_, columns, distinct, resolved, _, _, left⟩ | ⟨same, added⟩
    · rw [left] at unset
      cases unset
    · rw [same] at unset
      exact (unrooted unset).extend query.tables _ added

/-- Behind the calls `before` comes the first select of the run that found its table, and this is what it found. -/
def FirstSelect (calls before : List Call) (resolved : Resolved) : Prop :=
  (({} : Query).runAll before).operation = none ∧
    ∃ request columns distinct after, calls = before ++ .select request columns distinct :: after ∧
      (({} : Query).runAll before).tables.resolve request true = .ok resolved

theorem exists_firstSelect (calls : List Call) (set : (({} : Query).runAll calls).operation.isSome = true) :
    ∃ before resolved, FirstSelect calls before resolved := by
  induction calls using List.reverseRecOn with
  | nil => cases set
  | append_singleton calls call ih =>
    cases unset : (({} : Query).runAll calls).operation with
    | some operation =>
      obtain ⟨before, resolved, first, request, columns, distinct, after, rfl, found⟩ := ih (by rw [unset]; rfl)
      exact ⟨before, resolved, first, request, columns, distinct, after ++ [call], by simp, found⟩
    | none =>
      rcases (({} : Query).runAll calls).started_or_unrooted call with
        ⟨request, columns, distinct, resolved, rfl, found, left⟩ | ⟨same, _⟩
      · exact ⟨calls, resolved, unset, request, columns, distinct, [], rfl, found⟩
      · rw [runAll_append, runAll_cons, runAll_nil, same, unset] at set
        cases set

theorem base_of_firstSelect (calls before : List Call) (resolved : Resolved)
    (first : FirstSelect calls before resolved) :
    (({} : Query).runAll calls).base = some resolved.id ∧
      resolved.registry.tables <+: (({} : Query).runAll calls).tables.tables := by
  obtain ⟨unset, request, columns, distinct, after, rfl, found⟩ := first
  have outcome := select_of_fits (({} : Query).runAll before) request columns distinct (.inl unset)
  rw [found] at outcome
  have grounded := (grounded_runAll before).run _ (.select request columns distinct)
  have grows := grows_runAll _ grounded after
  rw [run, outcome] at grows
  rw [runAll_append, runAll_cons, run, outcome]
  exact ⟨grows.base resolved.id (by simp [extended, selected, unset]), grows.tables⟩

theorem isRoot_of_firstSelect (calls before : List Call) (resolved : Resolved)
    (first : FirstSelect calls before resolved) :
    (resolved.registry.table resolved.id).isRoot = true ↔
      (({} : Query).runAll before).tables.get? resolved.id = none := by
  obtain ⟨unset, request, _, _, _, _, found⟩ := first
  have unrooted := unrooted_of_unset before unset
  rcases Registry.resolve_cases _ request true resolved found with
    ⟨same, table, held, _⟩ | ⟨parsed, collisions, _, _, last, tables⟩
  · rw [same, Registry.table_of_get? _ _ table held, held, unrooted table (List.mem_of_getElem? held)]
    simp
  · have new : resolved.registry.get? resolved.id =
        some ((({} : Query).runAll before).tables.newTable parsed true collisions) := by
      simp [Registry.get?, tables, last, Registry.size]
    rw [Registry.table_of_get? _ _ _ new, Registry.isRoot_newTable, last]
    simp [Registry.get?, Registry.size]

/-- The base table of a query is the one that its first select found. It is a root exactly if it was not there before,
whatever named it. If it is none, its name is refused under every alias that is free. -/
theorem base_isRoot_iff (calls : List Call) (begun : (({} : Query).runAll calls).operation.isSome = true) :
    let query := ({} : Query).runAll calls
    ∃ before resolved, FirstSelect calls before resolved ∧ query.base = some resolved.id ∧
      let table := query.tables.table resolved.id
      (table.isRoot = true ↔ (({} : Query).runAll before).tables.get? resolved.id = none) ∧
        (table.isRoot = false → ∀ aliasName isRoot, aliasName ∉ query.tables.aliases →
          query.tables.check ⟨table.basename, some aliasName⟩ isRoot =
            .error (.unresolvableTable table.basename aliasName)) := by
  intro query
  obtain ⟨before, resolved, first⟩ := exists_firstSelect calls begun
  obtain ⟨base, grown⟩ := base_of_firstSelect calls before resolved first
  have marked := isRoot_of_firstSelect calls before resolved first
  have ⟨unset, request, _, _, _, _, found⟩ := first
  have known := Registry.resolve_lt_size _ request true resolved found
  have kept : query.tables.table resolved.id = resolved.registry.table resolved.id :=
    Registry.table_of_grown resolved.registry query.tables resolved.id known grown
  refine ⟨before, resolved, first, base, ?_⟩
  simp only [kept]
  refine ⟨marked, ?_⟩
  intro plain aliasName isRoot free
  have added := Registry.tables_of_resolve _ request true resolved found
  have there : (({} : Query).runAll before).tables.get? resolved.id ≠ none := by
    intro absent
    rw [marked.mpr absent] at plain
    cases plain
  obtain ⟨table, held⟩ := Option.ne_none_iff_exists'.mp there
  have same : resolved.registry.table resolved.id = table := by
    have inside := (List.getElem?_eq_some_iff.mp held).1
    rw [Registry.table_of_grown _ _ resolved.id inside added]
    exact Registry.table_of_get? _ _ table held
  rw [same]
  exact Registry.refused_of_unrooted _ query.tables (unrooted_of_unset before unset) table
    (List.mem_of_getElem? held) (added.trans grown) aliasName free isRoot

/-- A filter in a group has named the table, so neither a join nor another select gets it under the alias `m`. -/
theorem base_isRoot_iff_named :
    let calls := [Call.openGroup .or, .filter .and "users.id" (.typed .eq) (.integer 1), .closeGroup,
      .select "users" [⟨"id", none⟩] false]
    let query := ({} : Query).runAll calls
    query.operation.isSome = true ∧
      ∃ before resolved, FirstSelect calls before resolved ∧ query.base = some resolved.id ∧
        (({} : Query).runAll before).tables.get? resolved.id ≠ none ∧
        ∀ isRoot, query.tables.check ⟨"users", some "m"⟩ isRoot = .error (.unresolvableTable "users" "m") := by
  intro calls query
  have begun : query.operation.isSome = true := by rfl
  obtain ⟨before, resolved, first, base, marked, refused⟩ := base_isRoot_iff calls begun
  have number : resolved.id = 0 := (Option.some.inj base).symm
  have plain : (query.tables.table resolved.id).isRoot = false := by rw [number]; rfl
  have name : (query.tables.table resolved.id).basename = "users" := by rw [number]; rfl
  have free : "m" ∉ query.tables.aliases := by decide +kernel
  rw [name] at refused
  refine ⟨begun, before, resolved, first, base, ?_, fun isRoot => refused plain "m" isRoot free⟩
  intro absent
  rw [marked.mpr absent] at plain
  cases plain

/-- A filter by the table's name comes before the select. -/
theorem base_unrooted :
    ¬ ∀ calls id, (({} : Query).runAll calls).operation.isSome = true → (({} : Query).runAll calls).base = some id →
      ((({} : Query).runAll calls).tables.table id).isRoot = true := by
  intro always
  have root := always [.filter .and "users.id" (.typed .eq) (.integer 1), .select "users" [⟨"id", none⟩] false] 0
    (by rfl) (by rfl)
  cases root

end Query
end SqlSelect

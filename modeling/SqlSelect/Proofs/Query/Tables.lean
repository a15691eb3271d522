import SqlSelect.Proofs.Condition.Comparisons
import SqlSelect.Proofs.Query.Run

namespace SqlSelect.Query

def references (query : Query) : List Column :=
  query.columns ++ query.joints.flatMap (fun joint => [joint.left, joint.right]) ++
    query.filters.comparisons.map (·.column) ++ query.grouping.toList

structure Grounded (query : Query) : Prop where
  started : query.operation.isSome = query.base.isSome
  base : ∀ id, query.base = some id → id < query.tables.size
  joined : ∀ joint ∈ query.joints, joint.table < query.tables.size
  owners : ∀ column ∈ query.references, column.table < query.tables.size

theorem grounded_empty : Grounded {} := ⟨rfl, by simp, by simp, by
  simp [references, Filters.comparisons, Filters.conditions, Filters.plug]⟩

theorem Grounded.extend (query later : Query) (grounded : query.Grounded)
    (grown : query.tables.size ≤ later.tables.size)
    (started : later.operation.isSome = later.base.isSome)
    (base : ∀ id, later.base = some id → query.base = some id ∨ id < later.tables.size)
    (joined : ∀ joint ∈ later.joints, joint ∈ query.joints ∨ joint.table < later.tables.size)
    (owners : ∀ column ∈ later.references, column ∈ query.references ∨ column.table < later.tables.size) :
    later.Grounded := by
  refine ⟨started, ?_, ?_, ?_⟩
  · intro id set
    rcases base id set with before | new
    · exact Nat.lt_of_lt_of_le (grounded.base id before) grown
    · exact new
  · intro joint member
    rcases joined joint member with before | new
    · exact Nat.lt_of_lt_of_le (grounded.joined joint before) grown
    · exact new
  · intro column member
    rcases owners column member with before | new
    · exact Nat.lt_of_lt_of_le (grounded.owners column before) grown
    · exact new

theorem add_cases (registry : Registry) (table : Nat) (columns : List Column) (spec : ColumnSpec)
    (later : List Column) (events : List Event)
    (success : Selection.add registry table columns spec = .ok (later, events)) :
    later = columns ∨ later = columns ++ [⟨spec.name, spec.aliasName, table⟩] := by
  unfold Selection.add at success
  split at success
  · cases success
  · split at success
    · cases success
      exact .inl rfl
    · split at success
      · rename_i bare
        cases success
        exact .inr (by rw [bare])
      · rename_i aliasName asked
        split at success
        · cases success
        · cases success
          exact .inr (by rw [asked])

theorem mem_addAll (registry : Registry) (table : Nat) (columns : List Column) (specs : List ColumnSpec)
    (column : Column) (member : column ∈ (Selection.addAll registry table columns specs).columns) :
    column ∈ columns ∨ ∃ spec ∈ specs, column = ⟨spec.name, spec.aliasName, table⟩ := by
  induction specs generalizing columns with
  | nil => exact .inl member
  | cons spec specs ih =>
    rw [Selection.addAll] at member
    split at member
    · exact .inl member
    · rename_i added events result
      rcases ih added member with member | ⟨asked, inside, same⟩
      · rcases add_cases registry table columns spec added events result with rfl | rfl
        · exact .inl member
        · rcases List.mem_append.mp member with member | member
          · exact .inl member
          · exact .inr ⟨spec, List.mem_cons_self, List.mem_singleton.mp member⟩
      · exact .inr ⟨asked, List.mem_cons_of_mem spec inside, same⟩

theorem mem_references (query : Query) (column : Column) :
    column ∈ query.references ↔
      column ∈ query.columns ∨ (∃ joint ∈ query.joints, column = joint.left ∨ column = joint.right) ∨
        (∃ comparison ∈ query.filters.comparisons, comparison.column = column) ∨
        query.grouping = some column := by
  simp [references]

theorem Grounded.select (query : Query) (grounded : query.Grounded) (request : String)
    (columns : List ColumnSpec) (distinct : Bool) :
    (query.select request columns distinct).query.Grounded := by
  rcases select_cases query request columns distinct with same | ⟨_, resolved, result, left⟩
  · rwa [same]
  · have grown := (Registry.tables_of_resolve query.tables request true resolved result).length_le
    have held := Registry.resolve_lt_size query.tables request true resolved result
    have added := mem_addAll resolved.registry resolved.id query.columns columns
    rw [left, selected]
    refine grounded.extend query _ grown ?_ ?_ ?_ ?_
    · have started := grounded.started
      cases set : query.operation <;> simp_all
    · intro id fixed
      dsimp only at fixed
      split at fixed
      · exact .inl fixed
      · cases fixed
        exact .inr held
    · exact fun joint member => .inl member
    · intro column member
      simp only [mem_references] at member ⊢
      rcases member with member | member
      · rcases added column member with member | ⟨_, _, rfl⟩
        · exact .inl (.inl member)
        · exact .inr held
      · exact .inl (.inr member)

theorem Grounded.filter (query : Query) (grounded : query.Grounded) (chain : Chain) (reference : String)
    (operator : OperatorSpec) (value : Json) :
    (query.filter chain reference operator value).query.Grounded := by
  rcases filter_cases query chain reference operator value with same | ⟨known, found, _, result, left⟩
  · rwa [same]
  · have grown := (Registry.tables_of_resolveColumn query.tables query.base reference found result).length_le
    have owner := Registry.owner_of_resolveColumn query.tables query.base reference found result grounded.base
    rw [left]
    refine grounded.extend query _ grown grounded.started ?_ ?_ ?_
    · exact fun id fixed => .inl fixed
    · exact fun joint member => .inl member
    · intro column member
      simp only [mem_references, Filters.comparisons_push, Condition.comparisons, List.mem_append,
        List.mem_singleton] at member ⊢
      rcases member with member | member | ⟨comparison, member | rfl, rfl⟩ | member
      · exact .inl (.inl member)
      · exact .inl (.inr (.inl member))
      · exact .inl (.inr (.inr (.inl ⟨comparison, member, rfl⟩)))
      · exact .inr owner
      · exact .inl (.inr (.inr (.inr member)))

theorem Grounded.join (query : Query) (grounded : query.Grounded) (request left right : String) :
    (query.join request left right).query.Grounded := by
  -- each of the three steps may register a table and may fail, so the ids are carried along the registries
  have larger : ∀ later : Registry, query.tables.size ≤ later.size →
      Grounded { query with tables := later } := by
    intro later grown
    refine grounded.extend query _ grown grounded.started ?_ ?_ ?_
    · exact fun id fixed => .inl fixed
    · exact fun joint member => .inl member
    · exact fun column member => .inl member
  rcases join_cases query request left right with same | ⟨target, targeted, later⟩
  · rwa [same]
  have toTarget : query.tables.size ≤ target.registry.size :=
    (Registry.tables_of_resolve query.tables request false target targeted).length_le
  have held := Registry.resolve_lt_size query.tables request false target targeted
  rcases later with same | ⟨first, firstResult, later⟩
  · rw [same]
    exact larger target.registry toTarget
  have toFirst : target.registry.size ≤ first.registry.size :=
    (Registry.tables_of_resolveColumn target.registry query.base left first firstResult).length_le
  have firstOwner := Registry.owner_of_resolveColumn target.registry query.base left first firstResult
    fun id set => Nat.lt_of_lt_of_le (grounded.base id set) toTarget
  rcases later with same | ⟨second, secondResult, same⟩
  · rw [same]
    exact larger first.registry (Nat.le_trans toTarget toFirst)
  have toSecond : first.registry.size ≤ second.registry.size :=
    (Registry.tables_of_resolveColumn first.registry query.base right second secondResult).length_le
  have secondOwner := Registry.owner_of_resolveColumn first.registry query.base right second secondResult
    fun id set => Nat.lt_of_lt_of_le (grounded.base id set) (Nat.le_trans toTarget toFirst)
  rw [same]
  refine grounded.extend query _ (Nat.le_trans toTarget (Nat.le_trans toFirst toSecond)) grounded.started
    ?_ ?_ ?_
  · exact fun id fixed => .inl fixed
  · intro joint member
    rcases List.mem_append.mp member with member | member
    · exact .inl member
    · rw [List.mem_singleton.mp member]
      exact .inr (Nat.lt_of_lt_of_le held (Nat.le_trans toFirst toSecond))
  · intro column member
    simp only [mem_references, List.mem_append, List.mem_singleton] at member ⊢
    rcases member with member | ⟨joint, member | rfl, side⟩ | member
    · exact .inl (.inl member)
    · exact .inl (.inr (.inl ⟨joint, member, side⟩))
    · rcases side with rfl | rfl
      · exact .inr (Nat.lt_of_lt_of_le firstOwner toSecond)
      · exact .inr secondOwner
    · exact .inl (.inr (.inr member))

theorem Grounded.groupBy (query : Query) (grounded : query.Grounded) (request column : String) :
    (query.groupBy request column).query.Grounded := by
  rcases groupBy_cases query request column with same | ⟨resolved, result, left⟩
  · rwa [same]
  · have grown := (Registry.tables_of_resolve query.tables request false resolved result).length_le
    have held := Registry.resolve_lt_size query.tables request false resolved result
    rw [left]
    refine grounded.extend query _ grown grounded.started ?_ ?_ ?_
    · exact fun id fixed => .inl fixed
    · exact fun joint member => .inl member
    · intro reference member
      simp only [mem_references, Option.some.injEq] at member ⊢
      rcases member with member | member | member | rfl
      · exact .inl (.inl member)
      · exact .inl (.inr (.inl member))
      · exact .inl (.inr (.inr (.inl member)))
      · exact .inr held

theorem Grounded.run (query : Query) (grounded : query.Grounded) (call : Call) :
    (query.run call).query.Grounded := by
  cases call with
  | select request columns distinct => exact grounded.select query request columns distinct
  | filter chain reference operator value => exact grounded.filter query chain reference operator value
  | openGroup chain =>
    refine ⟨grounded.started, grounded.base, grounded.joined, ?_⟩
    simp only [Query.run, openGroup, done, references, Filters.comparisons_openGroup]
    exact grounded.owners
  | closeGroup =>
    refine ⟨grounded.started, grounded.base, grounded.joined, ?_⟩
    simp only [Query.run, closeGroup, done, references, Filters.comparisons_closeGroup]
    exact grounded.owners
  | join request left right => exact grounded.join query request left right
  | groupBy request column => exact grounded.groupBy query request column
  | setDialect dialect => exact ⟨grounded.started, grounded.base, grounded.joined, grounded.owners⟩
  | setQualify qualify => exact ⟨grounded.started, grounded.base, grounded.joined, grounded.owners⟩

theorem grounded_runAll (calls : List Call) : (({} : Query).runAll calls).Grounded := by
  apply runAll_induction Grounded
  · exact grounded_empty
  · exact fun query call grounded => grounded.run query call

end SqlSelect.Query

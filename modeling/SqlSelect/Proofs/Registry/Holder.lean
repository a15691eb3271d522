import SqlSelect.Proofs.Registry.Reference
import SqlSelect.Proofs.Registry.Stability

namespace SqlSelect.Registry

theorem locateFrom_of_first (p : Table → Bool) (start id : Nat) (tables : List Table) (table : Table)
    (held : tables[id]? = some table) (holds : p table = true)
    (first : ∀ other earlier, other < id → tables[other]? = some earlier → p earlier = false) :
    locateFrom p start tables = some (start + id, table) := by
  induction tables generalizing start id with
  | nil => simp at held
  | cons head tables ih =>
    cases id with
    | zero =>
      have same : head = table := by simpa using held
      rw [locateFrom, same, if_pos holds]
      rfl
    | succ id =>
      have other : p head = false := first 0 head (by omega) (by simp)
      rw [locateFrom, if_neg (by simp [other])]
      rw [ih (start + 1) id (by simpa using held)]
      · simp only [Option.some.injEq, Prod.mk.injEq, and_true]
        omega
      · intro earlier table below at_id
        exact first (earlier + 1) table (by omega) (by simpa using at_id)

theorem locate_of_first (registry : Registry) (p : Table → Bool) (id : Nat) (table : Table)
    (held : registry.get? id = some table) (holds : p table = true)
    (first : ∀ other earlier, other < id → registry.get? other = some earlier → p earlier = false) :
    registry.locate p = some (id, table) := by
  have hit := locateFrom_of_first p 0 id registry.tables table held holds first
  rwa [Nat.zero_add] at hit

theorem WellNamed.id_unique (registry : Registry) (named : registry.WellNamed) (id other : Nat)
    (table holder : Table) (held : registry.get? id = some table) (holds : registry.get? other = some holder)
    (same : holder.aliasName = table.aliasName) : other = id := by
  have left : registry.aliases[other]? = some table.aliasName := by
    rw [aliases, List.getElem?_map, show registry.tables[other]? = some holder from holds, ← same]
    rfl
  have right : registry.aliases[id]? = some table.aliasName := by
    rw [aliases, List.getElem?_map, show registry.tables[id]? = some table from held]
    rfl
  have inside := (List.getElem?_eq_some_iff.mp left).1
  exact (List.getElem?_inj inside named.distinct).mp (left.trans right.symm)

/-- A table without a declared alias was registered when no table answered its name. -/
theorem unanswered_resolveAll (requests : List (String × Bool)) :
    (({} : Registry).resolveAll requests).tables.Pairwise fun earlier later =>
      later.isDeclared = false → answers later.basename false earlier = false := by
  apply resolveAll_induction (·.tables.Pairwise fun earlier later =>
    later.isDeclared = false → answers later.basename false earlier = false)
  · exact List.Pairwise.nil
  · intro registry request parsed isRoot collisions ordered _ checked
    rw [List.pairwise_append]
    refine ⟨ordered, List.pairwise_singleton _ _, ?_⟩
    intro earlier member later last
    rw [List.mem_singleton.mp last]
    obtain ⟨basename, _ | aliasName⟩ := parsed
    -- only a bare request makes a table without a declared alias, and only where no table answers its name
    · intro _
      have silent := (check_bare_register registry basename isRoot collisions checked).1 earlier member
      simp only [answers, Bool.or_eq_false_iff, Bool.and_eq_false_iff] at silent ⊢
      simp only [newTable]
      refine ⟨silent.1, ?_⟩
      rcases silent.2 with other | declared
      · exact .inl other
      · exact .inr ⟨declared.1, by simp⟩
    · intro automatic
      cases automatic

def IsAutomatic (registry : Registry) (basename : String) (id : Nat) : Prop :=
  ∃ table, registry.get? id = some table ∧ table.isDeclared = false ∧ table.basename = basename

theorem locate_automatic (requests : List (String × Bool)) (basename : String) (id : Nat)
    (automatic : IsAutomatic (resolveAll {} requests) basename id) :
    ∃ table, (({} : Registry).resolveAll requests).locate (answers basename false) = some (id, table) := by
  obtain ⟨table, held, undeclared, rfl⟩ := automatic
  refine ⟨table, ?_⟩
  apply locate_of_first _ _ id table held
  · simp [answers, undeclared]
  · intro other earlier below at_id
    have ordered := List.pairwise_iff_getElem.mp (unanswered_resolveAll requests)
    obtain ⟨inside, rfl⟩ := List.getElem?_eq_some_iff.mp at_id
    obtain ⟨bound, rfl⟩ := List.getElem?_eq_some_iff.mp held
    exact ordered other id inside bound below undeclared

theorem locate_holder (registry : Registry) (named : registry.WellNamed) (id : Nat) (table : Table)
    (held : registry.get? id = some table)
    (alone : ∀ other, registry.IsAutomatic table.aliasName other → other = id) :
    registry.locate (answers table.aliasName false) = some (id, table) := by
  apply locate_of_first _ _ id table held
  · simp [answers]
  · intro other earlier below at_id
    by_contra answering
    simp only [answers, Bool.and_false, Bool.or_false, Bool.not_eq_false, Bool.or_eq_true, Bool.and_eq_true,
      beq_iff_eq, Bool.not_eq_true'] at answering
    have same : other = id := by
      rcases answering with shared | ⟨name, undeclared⟩
      · exact named.id_unique registry id other table earlier held at_id shared
      · exact alone other ⟨earlier, at_id, undeclared, name⟩
    omega

theorem locate_alias (requests : List (String × Bool)) (id : Nat) (table : Table)
    (held : (({} : Registry).resolveAll requests).get? id = some table) :
    let registry := ({} : Registry).resolveAll requests
    ∃ holder found, registry.locate (answers table.aliasName false) = some (holder, found) ∧
      (holder = id ↔ ∀ other, registry.IsAutomatic table.aliasName other → other = id) ∧
      ∀ other, registry.IsAutomatic table.aliasName other → holder = other := by
  intro registry
  by_cases alone : ∀ other, registry.IsAutomatic table.aliasName other → other = id
  · have hit := locate_holder registry (wellNamed_resolveAll requests) id table held alone
    refine ⟨id, table, hit, ⟨fun _ => alone, fun _ => rfl⟩, ?_⟩
    intro other automatic
    exact (alone other automatic).symm
  · obtain ⟨other, shadow⟩ := not_forall.mp alone
    obtain ⟨automatic, different⟩ := Classical.not_imp.mp shadow
    obtain ⟨found, hit⟩ := locate_automatic requests table.aliasName other automatic
    refine ⟨other, found, hit, ⟨fun same => absurd same different, fun single => absurd single alone⟩, ?_⟩
    intro another same
    obtain ⟨_, again⟩ := locate_automatic requests table.aliasName another same
    rw [hit] at again
    cases again
    rfl

theorem resolve_word (registry : Registry) (name : String) (id : Nat) (table : Table)
    (word : Text.IsWord name) (free : TableRequest.isAs name = false)
    (first : registry.locate (answers name false) = some (id, table)) :
    registry.resolve name false = .ok ⟨id, registry, .tableReused name table.aliasName⟩ := by
  apply resolve_of_named registry name ⟨name, none⟩ false id table
  · exact TableRequest.parse_of_isWord name word free
  · exact first
  · intro declared
    exact absurd rfl declared

theorem resolveColumn_word (registry : Registry) (base : Option Nat) (name column : String)
    (resolved : Resolved) (word : Text.IsWord name) (single : '.' ∉ name.toList)
    (filled : Text.isAllBlank column = false) (success : registry.resolve name false = .ok resolved) :
    registry.resolveColumn base (name ++ "." ++ column) =
      .ok ⟨⟨Text.trim column, none, resolved.id⟩, resolved.registry, [resolved.event]⟩ := by
  rw [resolveColumn, ColumnReference.parse_of_isWord name column word single filled]
  simp only [bind, Except.bind, success]

/-- An alias names its holder, unless it is the name of another table whose alias was not declared: then it names
that one. A reference to a column goes to the same table. -/
theorem resolve_alias (requests : List (String × Bool)) (id : Nat) (table : Table)
    (held : (({} : Registry).resolveAll requests).get? id = some table)
    (free : TableRequest.isAs table.aliasName = false) :
    let registry := ({} : Registry).resolveAll requests
    ∃ holder event, registry.resolve table.aliasName false = .ok ⟨holder, registry, event⟩ ∧
      (holder = id ↔ ∀ other, registry.IsAutomatic table.aliasName other → other = id) ∧
      (∀ other, registry.IsAutomatic table.aliasName other → holder = other) ∧
      ∀ base column, '.' ∉ table.aliasName.toList → Text.isAllBlank column = false →
        registry.resolveColumn base (table.aliasName ++ "." ++ column) =
          .ok ⟨⟨Text.trim column, none, holder⟩, registry, [event]⟩ := by
  intro registry
  have named : registry.WellNamed := wellNamed_resolveAll requests
  have word := (named.words table (List.mem_of_getElem? held)).2
  obtain ⟨holder, found, hit, unshadowed, shadowed⟩ := locate_alias requests id table held
  have success := resolve_word registry table.aliasName holder found word free hit
  refine ⟨holder, _, success, unshadowed, shadowed, ?_⟩
  intro base column single filled
  exact resolveColumn_word registry base table.aliasName column _ word single filled success

theorem resolve_alias_numbered :
    (({} : Registry).resolveAll [("users AS m", true), ("users", false)]).get? 1 =
        some ⟨"users", "users1", false, false⟩ ∧
      TableRequest.isAs "users1" = false ∧
      let registry := ({} : Registry).resolveAll [("users AS m", true), ("users", false)]
      ∃ holder event, registry.resolve "users1" false = .ok ⟨holder, registry, event⟩ ∧
        (holder = 1 ↔ ∀ other, registry.IsAutomatic "users1" other → other = 1) ∧
        (∀ other, registry.IsAutomatic "users1" other → holder = other) ∧
        ∀ base column, '.' ∉ "users1".toList → Text.isAllBlank column = false →
          registry.resolveColumn base ("users1" ++ "." ++ column) =
            .ok ⟨⟨Text.trim column, none, holder⟩, registry, [event]⟩ := by
  refine ⟨by rfl, by rfl, ?_⟩
  exact resolve_alias _ 1 ⟨"users", "users1", false, false⟩ (by rfl) (by rfl)

/-- Where a name was in use before a table was declared under it, the name is not a name of that table. -/
theorem alias_shadowed :
    ¬ ∀ requests id table, (({} : Registry).resolveAll requests).get? id = some table →
      TableRequest.isAs table.aliasName = false →
      ∃ event, (({} : Registry).resolveAll requests).resolve table.aliasName false =
        .ok ⟨id, ({} : Registry).resolveAll requests, event⟩ := by
  intro always
  obtain ⟨event, given⟩ := always [("users AS m", true), ("users", false), ("accounts AS users", false)] 2
    ⟨"accounts", "users", false, true⟩ (by rfl) (by rfl)
  have found : (({} : Registry).resolveAll
      [("users AS m", true), ("users", false), ("accounts AS users", false)]).resolve "users" false =
    .ok ⟨1, ⟨[⟨"users", "m", true, true⟩, ⟨"users", "users1", false, false⟩,
      ⟨"accounts", "users", false, true⟩]⟩, .tableReused "users" "users1"⟩ := by rfl
  rw [found] at given
  cases given

end SqlSelect.Registry

import Mathlib.Order.Bounds.Basic
import SqlSelect.Proofs.Registry.Log
import SqlSelect.Proofs.Registry.Request

namespace SqlSelect.Registry

/-- The search for a free counter, by its rounds, its start and its end. If the alias of a counter is taken the search
goes on with the next counter, and otherwise it ends. -/
inductive Searches (registry : Registry) (basename : String) : Nat → Nat → Nat → Prop where
  | free (counter : Nat) (absent : registry.findByAlias (numbered basename counter) = none) :
    Searches registry basename 1 counter counter
  | taken (rounds start counter : Nat) (held : registry.findByAlias (numbered basename start) ≠ none)
    (later : Searches registry basename rounds (start + 1) counter) :
    Searches registry basename (rounds + 1) start counter

def freeCounters (registry : Registry) (basename : String) (start : Nat) : Set Nat :=
  { counter | start ≤ counter ∧ ∀ table ∈ registry.tables, table.aliasName ≠ basename ++ toString counter }

section Search

variable (registry : Registry) (basename : String)

theorem mem_freeCounters_iff (start counter : Nat) :
    counter ∈ registry.freeCounters basename start ↔
      start ≤ counter ∧ registry.findByAlias (numbered basename counter) = none := by
  rw [findByAlias_eq_none_iff, not_mem_aliases_iff]
  exact Iff.rfl

theorem Searches.rounds_eq (rounds start counter : Nat) (search : registry.Searches basename rounds start counter) :
    start + rounds = counter + 1 := by
  induction search with
  | free => rfl
  | taken rounds start counter held later ih => omega

theorem Searches.isLeast (rounds start counter : Nat) (search : registry.Searches basename rounds start counter) :
    IsLeast (registry.freeCounters basename start) counter := by
  induction search with
  | free counter absent =>
    refine ⟨(registry.mem_freeCounters_iff basename counter counter).mpr ⟨le_rfl, absent⟩, ?_⟩
    exact fun other member => member.1
  | taken rounds start counter held later ih =>
    obtain ⟨⟨above, clear⟩, least⟩ := ih
    refine ⟨⟨Nat.le_of_succ_le above, clear⟩, ?_⟩
    -- the start is taken, so what is free from it on is free from the next counter on
    intro other member
    have apart : other ≠ start := by
      rintro rfl
      exact held ((registry.mem_freeCounters_iff basename other other).mp member).2
    have later := member.1
    exact least ⟨by omega, member.2⟩

theorem exists_searches_freeCounter (fuel start : Nat)
    (early : registry.freeCounter basename fuel start < start + fuel) :
    ∃ rounds, registry.Searches basename rounds start (registry.freeCounter basename fuel start) := by
  induction fuel generalizing start with
  | zero =>
    rw [freeCounter] at early
    omega
  | succ fuel ih =>
    rw [freeCounter] at early ⊢
    cases first : registry.findByAlias (numbered basename start) with
    | none => exact ⟨1, .free start first⟩
    | some holder =>
      simp only [first] at early ⊢
      obtain ⟨rounds, later⟩ := ih (start + 1) (by omega)
      exact ⟨rounds + 1, .taken rounds start _ (by simp [first]) later⟩

/-- Whatever the tables are, the search ends, and it is the one that a new alias comes from. -/
theorem exists_search (start : Nat) :
    ∃ rounds counter, rounds ≤ registry.size + 1 ∧ registry.Searches basename rounds start counter ∧
      registry.disambiguate basename start = basename ++ toString counter := by
  have early := registry.freeCounter_lt basename start
  obtain ⟨rounds, search⟩ := registry.exists_searches_freeCounter basename _ start early
  have spent := search.rounds_eq
  exact ⟨rounds, _, by omega, search, rfl⟩

theorem Searches.unique (rounds others start counter other : Nat)
    (search : registry.Searches basename rounds start counter) (again : registry.Searches basename others start other) :
    others = rounds ∧ other = counter := by
  have same := again.isLeast.unique search.isLeast
  have spent := search.rounds_eq
  have left := again.rounds_eq
  omega

end Search

def pass (basename : String) (isRoot : Bool) : Nat → Nat → List Table → Resolution
  | _, count, [] => .register count
  | id, count, table :: tables =>
    if answers basename isRoot table then .reuse id table
    else pass basename isRoot (id + 1) (if table.basename == basename then count + 1 else count) tables

theorem pass_eq (basename : String) (isRoot : Bool) (id count : Nat) (tables : List Table) :
    pass basename isRoot id count tables =
      (locateFrom (answers basename isRoot) id tables).elim
        (.register (count + tables.countP (·.basename == basename))) fun hit => .reuse hit.1 hit.2 := by
  induction tables generalizing id count with
  | nil => rfl
  | cons table tables ih =>
    rw [pass, locateFrom]
    by_cases answering : answers basename isRoot table = true
    · rw [if_pos answering, if_pos answering]
      rfl
    · have counted : (if table.basename == basename then count + 1 else count) + tables.countP (·.basename == basename) =
          count + (table :: tables).countP (·.basename == basename) := by
        rw [List.countP_cons]
        split <;> omega
      rw [if_neg answering, if_neg answering, ih, counted]

theorem resolveBare_eq_pass (registry : Registry) (basename : String) (isRoot : Bool) :
    registry.resolveBare basename isRoot = pass basename isRoot 0 0 registry.tables := by
  rw [pass_eq, resolveBare, locate]
  cases locateFrom (answers basename isRoot) 0 registry.tables with
  | none => rw [Option.elim_none, Nat.zero_add, countName]
  | some hit => rfl

section Pass

variable (registry : Registry) (request basename : String) (isRoot : Bool)
  (spelled : TableRequest.Spells (Text.words request) ⟨basename, none⟩)

include spelled

theorem resolve_of_pass_reuse (id : Nat) (table : Table)
    (found : pass basename isRoot 0 0 registry.tables = .reuse id table) :
    registry.resolve request isRoot = .ok ⟨id, registry, .tableReused request table.aliasName⟩ := by
  have readable := (TableRequest.parse_eq_ok_iff request _).mpr spelled
  rw [← resolveBare_eq_pass] at found
  exact resolve_of_reuse registry request _ isRoot id table readable (congrArg Except.ok found)

theorem resolve_of_pass_register (collisions : Nat)
    (ended : pass basename isRoot 0 0 registry.tables = .register collisions) :
    ∃ aliasName, registry.resolve request isRoot =
        .ok ⟨registry.size, ⟨registry.tables ++ [⟨basename, aliasName, isRoot, false⟩]⟩,
          .tableRegistered basename aliasName isRoot collisions⟩ ∧
      (collisions = 0 ∧ aliasName = basename ∨
        1 ≤ collisions ∧ aliasName = registry.disambiguate basename collisions) := by
  have readable := (TableRequest.parse_eq_ok_iff request _).mpr spelled
  rw [← resolveBare_eq_pass] at ended
  have registered := resolve_of_register registry request _ isRoot collisions readable (congrArg Except.ok ended)
  refine ⟨_, registered, ?_⟩
  by_cases first : collisions = 0
  · exact .inl ⟨first, by simp only [first, if_true]⟩
  · exact .inr ⟨Nat.one_le_iff_ne_zero.mpr first, by simp only [first, if_false]⟩

end Pass

/-- For any tables the search ends, in one way only, after one round more than there are tables at most, and the alias
carries the least counter from the start on that is free. A request without an alias that reuses no table has counted
the tables of its name; it takes the name if there is none, and else starts the search from their number. -/
theorem disambiguate_least :
    (∀ (registry : Registry) (basename : String) (start : Nat), ∃ rounds counter,
        rounds ≤ registry.tables.length + 1 ∧ registry.Searches basename rounds start counter ∧
        (∀ others other, registry.Searches basename others start other → others = rounds ∧ other = counter) ∧
        IsLeast (registry.freeCounters basename start) counter ∧
        registry.disambiguate basename start = basename ++ toString counter) ∧
      ∀ (registry : Registry) (request basename : String) (isRoot : Bool),
        TableRequest.Spells (Text.words request) ⟨basename, none⟩ →
        (∀ id table, pass basename isRoot 0 0 registry.tables = .reuse id table →
          registry.resolve request isRoot = .ok ⟨id, registry, .tableReused request table.aliasName⟩) ∧
        ∀ collisions, pass basename isRoot 0 0 registry.tables = .register collisions →
          collisions = registry.tables.countP (·.basename == basename) ∧
          ∃ aliasName, registry.resolve request isRoot =
              .ok ⟨registry.size, ⟨registry.tables ++ [⟨basename, aliasName, isRoot, false⟩]⟩,
                .tableRegistered basename aliasName isRoot collisions⟩ ∧
            (collisions = 0 ∧ aliasName = basename ∨
              1 ≤ collisions ∧ aliasName = registry.disambiguate basename collisions) := by
  constructor
  · intro registry basename start
    obtain ⟨rounds, counter, few, search, chosen⟩ := registry.exists_search basename start
    refine ⟨rounds, counter, few, search, ?_, search.isLeast, chosen⟩
    exact fun others other again => search.unique registry basename rounds others start counter other again
  · intro registry request basename isRoot spelled
    refine ⟨resolve_of_pass_reuse registry request basename isRoot spelled, ?_⟩
    intro collisions ended
    refine ⟨?_, resolve_of_pass_register registry request basename isRoot spelled collisions ended⟩
    rw [← resolveBare_eq_pass] at ended
    exact (check_bare_register registry basename isRoot collisions (congrArg Except.ok ended)).2

/-- A table of another name was declared under the alias that the search starts with. -/
theorem disambiguate_least_skipped :
    let registry : Registry := ⟨[⟨"orders", "orders", true, false⟩, ⟨"users", "m", false, true⟩,
      ⟨"accounts", "users1", false, true⟩]⟩
    TableRequest.Spells (Text.words "users") ⟨"users", none⟩ ∧
      pass "users" false 0 0 registry.tables = .register 1 ∧ registry.Searches "users" 2 1 2 ∧
      registry.resolve "users" false = .ok ⟨3, ⟨registry.tables ++ [⟨"users", "users2", false, false⟩]⟩,
        .tableRegistered "users" "users2" false 1⟩ := by
  intro registry
  have spelled : TableRequest.Spells (Text.words "users") ⟨"users", none⟩ := .bare "users" (by rfl)
  have ended : pass "users" false 0 0 registry.tables = .register 1 := by rfl
  have search : registry.Searches "users" 2 1 2 :=
    .taken 1 1 2 (by decide) (.free 2 (by decide))
  obtain ⟨searched, requested⟩ := disambiguate_least
  obtain ⟨rounds, counter, _, _, unique, _, chosen⟩ := searched registry "users" 1
  obtain ⟨_, aliasName, registered, ⟨none, _⟩ | ⟨_, same⟩⟩ :=
    (requested registry "users" "users" false spelled).2 1 ended
  · cases none
  · rw [← (unique 2 2 search).2] at chosen
    rw [same, chosen] at registered
    exact ⟨spelled, ended, search, registered⟩

end SqlSelect.Registry

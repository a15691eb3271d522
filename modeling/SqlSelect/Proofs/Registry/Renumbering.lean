import SqlSelect.Proofs.Registry.Bare

namespace SqlSelect

namespace Registry

structure Renumbers (f : Nat → Nat) (source target : Registry) : Prop where
  injective : Function.Injective f
  size : target.size = source.size
  bound : ∀ id, id < source.size → f id < target.size
  aliasName : ∀ id, (target.table (f id)).aliasName = (source.table id).aliasName
  basename : ∀ id, (target.table (f id)).basename = (source.table id).basename

structure SameNames (f : Nat → Nat) (source target : Registry) : Prop where
  aliasName : ∀ id, (target.table (f id)).aliasName = (source.table id).aliasName
  basename : ∀ id, (target.table (f id)).basename = (source.table id).basename

theorem Renumbers.sameNames {f : Nat → Nat} {source target : Registry} (renumbers : Renumbers f source target) :
    SameNames f source target := ⟨renumbers.aliasName, renumbers.basename⟩

/-- The number of the table with that alias. What stands for no table is left as it is. -/
def renumbering (source target : Registry) (id : Nat) : Nat :=
  if id < source.size then (target.findByAlias (source.table id).aliasName).getD id else id

theorem get?_of_findByAlias (registry : Registry) (aliasName : String) (id : Nat)
    (found : registry.findByAlias aliasName = some id) :
    ∃ table, registry.get? id = some table ∧ table.aliasName = aliasName := by
  obtain ⟨hit, located, rfl⟩ := Option.map_eq_some_iff.mp found
  have ⟨held, same⟩ := registry.get?_of_locate _ hit.1 hit.2 located
  exact ⟨hit.2, held, beq_iff_eq.mp same⟩

theorem table_of_size_le (registry : Registry) (id : Nat) (unknown : registry.size ≤ id) :
    registry.table id = default := by
  have absent : registry.get? id = none := List.getElem?_eq_none unknown
  rw [table, absent, Option.getD_none]

section Beyond

def beyond (source target : Registry) (id : Nat) : Nat := if id < source.size then id else target.size + id

theorem beyond_of_lt (source target : Registry) (id : Nat) (known : id < source.size) :
    beyond source target id = id := if_pos known

theorem table_beyond (source target : Registry) (grown : source.tables <+: target.tables) (id : Nat) :
    target.table (beyond source target id) = source.table id := by
  rcases Nat.lt_or_ge id source.size with known | unknown
  · obtain ⟨added, same⟩ := grown
    have held : target.get? id = source.get? id := by
      rw [get?, ← same, List.getElem?_append_left known, get?]
    rw [beyond_of_lt source target id known, table, held, table]
  · -- left as it is, the number might be that of a table that is new
    rw [beyond, if_neg (Nat.not_lt.mpr unknown), source.table_of_size_le id unknown]
    exact target.table_of_size_le _ (Nat.le_add_right target.size id)

theorem sameNames_beyond (source target : Registry) (grown : source.tables <+: target.tables) :
    SameNames (beyond source target) source target := by
  constructor
  · intro id
    rw [table_beyond source target grown id]
  · intro id
    rw [table_beyond source target grown id]

end Beyond

section Renumbering

variable (source target : Registry)

theorem size_of_same_aliases (distinct : source.aliases.Nodup) (apart : target.aliases.Nodup)
    (same : ∀ aliasName, aliasName ∈ source.aliases ↔ aliasName ∈ target.aliases) :
    target.size = source.size := by
  have order : source.aliases.Perm target.aliases := (List.perm_ext_iff_of_nodup distinct apart).mpr same
  have lengths := order.length_eq
  simp only [aliases, List.length_map] at lengths
  exact lengths.symm

theorem get?_renumbering (covered : ∀ aliasName ∈ source.aliases, aliasName ∈ target.aliases) (id : Nat)
    (known : id < source.size) :
    ∃ table, target.get? (renumbering source target id) = some table ∧
      table.aliasName = (source.table id).aliasName := by
  have member := (source.mem_aliases_iff _).mpr ⟨id, _, source.get?_of_lt id known, rfl⟩
  have present := covered _ member
  cases found : target.findByAlias (source.table id).aliasName with
  | none => exact absurd present ((findByAlias_eq_none_iff target _).mp found)
  | some holder =>
    rw [renumbering, if_pos known, found, Option.getD_some]
    exact get?_of_findByAlias target _ holder found

theorem renumbering_of_le (id : Nat) (unknown : source.size ≤ id) : renumbering source target id = id := by
  rw [renumbering, if_neg (Nat.not_lt.mpr unknown)]

variable (plain : source.Plain) (clear : target.Plain)
  (same : ∀ aliasName, aliasName ∈ source.aliases ↔ aliasName ∈ target.aliases)

include same

theorem renumbering_lt (id : Nat) (known : id < source.size) : renumbering source target id < target.size := by
  obtain ⟨table, present, _⟩ := get?_renumbering source target (fun aliasName => (same aliasName).mp) id known
  exact (List.getElem?_eq_some_iff.mp present).1

include plain clear

theorem table_renumbering_of_le (id : Nat) (unknown : source.size ≤ id) :
    target.table (renumbering source target id) = source.table id := by
  have size := size_of_same_aliases source target plain.named.distinct clear.named.distinct same
  rw [renumbering_of_le source target id unknown, source.table_of_size_le id unknown]
  rw [target.table_of_size_le id (by omega)]

theorem aliasName_renumbering (id : Nat) :
    (target.table (renumbering source target id)).aliasName = (source.table id).aliasName := by
  rcases Nat.lt_or_ge id source.size with known | unknown
  · obtain ⟨table, present, shared⟩ := get?_renumbering source target (fun aliasName => (same aliasName).mp) id known
    rw [table_of_get? target _ table present, shared]
  · rw [table_renumbering_of_le source target plain clear same id unknown]

theorem basename_renumbering (id : Nat) :
    (target.table (renumbering source target id)).basename = (source.table id).basename := by
  rcases Nat.lt_or_ge id source.size with known | unknown
  · have held := target.get?_of_lt _ (renumbering_lt source target same id known)
    have owner := plain.bare _ (List.mem_of_getElem? (source.get?_of_lt id known))
    have holder := clear.bare _ (List.mem_of_getElem? held)
    rw [← holder, aliasName_renumbering source target plain clear same id, owner]
  · rw [table_renumbering_of_le source target plain clear same id unknown]

theorem renumbering_injective : Function.Injective (renumbering source target) := by
  have size := size_of_same_aliases source target plain.named.distinct clear.named.distinct same
  have bound := renumbering_lt source target same
  have outside := renumbering_of_le source target
  intro first second equal
  -- known numbers go to known ones and the others stay, so both are known or neither is
  rcases Nat.lt_or_ge first source.size with known | unknown
  · rcases Nat.lt_or_ge second source.size with inside | beyond
    · have shared := aliasName_renumbering source target plain clear same first
      rw [equal, aliasName_renumbering source target plain clear same second] at shared
      exact plain.named.id_unique source second first _ _ (source.get?_of_lt second inside)
        (source.get?_of_lt first known) shared.symm
    · have small := bound first known
      rw [equal, outside second beyond] at small
      omega
  · rcases Nat.lt_or_ge second source.size with inside | beyond
    · have small := bound second inside
      rw [← equal, outside first unknown] at small
      omega
    · rwa [outside first unknown, outside second beyond] at equal

theorem renumbers_renumbering : Renumbers (renumbering source target) source target := by
  constructor
  · exact renumbering_injective source target plain clear same
  · exact size_of_same_aliases source target plain.named.distinct clear.named.distinct same
  · exact renumbering_lt source target same
  · exact aliasName_renumbering source target plain clear same
  · exact basename_renumbering source target plain clear same

end Renumbering

structure Knows (registry : Registry) (request : String) : Prop where
  bare : TableRequest.isBare request = true
  present : ∀ name, TableRequest.name? request = some name → name ∈ registry.aliases

end Registry

def Resolved.renumber (f : Nat → Nat) (target : Registry) (resolved : Resolved) : Resolved :=
  ⟨f resolved.id, target, resolved.event⟩

namespace Registry

section Known

variable (f : Nat → Nat) (source target : Registry) (renumbers : Renumbers f source target) (plain : source.Plain)
  (clear : target.Plain) (request : String) (knows : source.Knows request) (isRoot : Bool)

include plain knows

theorem registry_of_knows (resolved : Resolved) (success : source.resolve request isRoot = .ok resolved) :
    resolved.registry = source := by
  rcases TableRequest.parse_of_isBare request knows.bare with ⟨name, asked, readable⟩ | ⟨fault, unreadable⟩
  · obtain ⟨id, table, held, same⟩ := (source.mem_aliases_iff name).mp (knows.present name asked)
    rw [plain.resolve_known source request name isRoot readable id table held same] at success
    cases success
    rfl
  · rw [resolve_of_unreadable source request isRoot fault unreadable] at success
    cases success

include renumbers clear

theorem Renumbers.resolve :
    target.resolve request isRoot = (source.resolve request isRoot).map (Resolved.renumber f target) := by
  rcases TableRequest.parse_of_isBare request knows.bare with ⟨name, asked, readable⟩ | ⟨fault, unreadable⟩
  · obtain ⟨id, table, held, same⟩ := (source.mem_aliases_iff name).mp (knows.present name asked)
    have there := target.get?_of_lt (f id) (renumbers.bound id (List.getElem?_eq_some_iff.mp held).1)
    have shared : (target.table (f id)).aliasName = name := by
      rw [renumbers.aliasName id, table_of_get? source id table held, same]
    rw [plain.resolve_known source request name isRoot readable id table held same]
    rw [clear.resolve_known target request name isRoot readable (f id) _ there shared]
    rfl
  · rw [resolve_of_unreadable source request isRoot fault unreadable]
    rw [resolve_of_unreadable target request isRoot fault unreadable]
    rfl

end Known

end Registry
end SqlSelect

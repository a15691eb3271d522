import SqlSelect.Registry

namespace SqlSelect.Registry

def aliases (registry : Registry) : List String := registry.tables.map (·.aliasName)

theorem not_mem_aliases_iff (registry : Registry) (aliasName : String) :
    aliasName ∉ registry.aliases ↔ ∀ table ∈ registry.tables, table.aliasName ≠ aliasName := by
  simp [aliases]

theorem locate_alias_eq_none_iff (registry : Registry) (aliasName : String) :
    registry.locate (·.aliasName == aliasName) = none ↔ aliasName ∉ registry.aliases := by
  rw [not_mem_aliases_iff, locate_eq_none_iff]
  simp only [beq_eq_false_iff_ne]

theorem findByAlias_eq_none_iff (registry : Registry) (aliasName : String) :
    registry.findByAlias aliasName = none ↔ aliasName ∉ registry.aliases := by
  rw [findByAlias, Option.map_eq_none_iff, locate_alias_eq_none_iff]

theorem numbered_injective (basename : String) (first second : Nat)
    (same : numbered basename first = numbered basename second) : first = second := by
  have texts := congrArg String.toList same
  simp only [numbered, String.toList_append, List.append_cancel_left_eq,
    Nat.toString_eq_ofList_toDigits, String.toList_ofList] at texts
  have numbers := congrArg (Nat.ofDigitChars 10 · 0) texts
  simpa only [Nat.ofDigitChars_ten_toDigits] using numbers

theorem freeCounter_taken (registry : Registry) (basename : String) (fuel start counter : Nat)
    (above : start ≤ counter) (below : counter < registry.freeCounter basename fuel start) :
    registry.findByAlias (numbered basename counter) ≠ none := by
  induction fuel generalizing start with
  | zero => rw [freeCounter] at below; omega
  | succ fuel ih =>
    rw [freeCounter] at below
    split at below
    · omega
    · rename_i holder taken
      by_cases first : counter = start
      · rw [first, taken]
        simp
      · exact ih (start + 1) (by omega) below

theorem freeCounter_free (registry : Registry) (basename : String) (fuel start : Nat)
    (early : registry.freeCounter basename fuel start < start + fuel) :
    registry.findByAlias (numbered basename (registry.freeCounter basename fuel start)) = none := by
  induction fuel generalizing start with
  | zero => rw [freeCounter] at early; omega
  | succ fuel ih =>
    rw [freeCounter] at early ⊢
    split
    · assumption
    · rename_i holder taken
      simp only [taken] at early
      exact ih (start + 1) (by omega)

theorem freeCounter_lt (registry : Registry) (basename : String) (start : Nat) :
    registry.freeCounter basename (registry.size + 1) start < start + (registry.size + 1) := by
  apply Nat.lt_of_not_le
  intro late
  -- all of these aliases would be taken, by different tables, and they are more than the tables
  let candidates := (List.range' start (registry.size + 1)).map (numbered basename)
  have distinct : candidates.Nodup := by
    apply List.pairwise_map.mpr
    apply List.Pairwise.imp _ List.nodup_range'
    intro first second differ same
    exact differ (numbered_injective basename first second same)
  have registered : candidates ⊆ registry.aliases := by
    intro candidate member
    obtain ⟨counter, inside, rfl⟩ := List.mem_map.mp member
    have range := List.mem_range'_1.mp inside
    have taken := freeCounter_taken registry basename (registry.size + 1) start counter range.1 (by omega)
    rw [ne_eq, findByAlias_eq_none_iff] at taken
    exact Decidable.not_not.mp taken
  have few := distinct.length_le_of_subset registered
  simp only [candidates, aliases, List.length_map, List.length_range', size] at few
  omega

theorem findByAlias_disambiguate (registry : Registry) (basename : String) (collisions : Nat) :
    registry.findByAlias (registry.disambiguate basename collisions) = none :=
  freeCounter_free registry basename _ collisions (freeCounter_lt registry basename collisions)

end SqlSelect.Registry

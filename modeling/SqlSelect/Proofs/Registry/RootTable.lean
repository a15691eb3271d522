import SqlSelect.Proofs.Registry.Holder
import SqlSelect.Proofs.Registry.Provenance
import SqlSelect.Proofs.Registry.Request

namespace SqlSelect.Registry

theorem check_root_of_free (registry : Registry) (basename aliasName : String)
    (free : aliasName ∉ registry.aliases) (id : Nat) (table : Table)
    (first : registry.locate (·.basename == basename) = some (id, table)) :
    registry.check ⟨basename, some aliasName⟩ true =
      if table.isRoot then .ok (.reuse id table) else .error (.unresolvableTable basename aliasName) := by
  have unheld := (registry.locate_alias_eq_none_iff aliasName).mpr free
  simp only [check, resolveAliased, unheld, Bool.true_or, Bool.and_true, first]

theorem get?_before (registry : Registry) (id other : Nat) (table : Table) (below : other < id)
    (held : registry.get? other = some table) : (registry.before id).get? other = some table := by
  rwa [get?, before, List.getElem?_take_of_lt below]

theorem locate_of_mem_before (registry : Registry) (id : Nat) (p : Table → Bool) (table : Table)
    (member : table ∈ (registry.before id).tables) (holds : p table = true) :
    ∃ other first, registry.locate p = some (other, first) ∧ first ∈ (registry.before id).tables ∧ p first = true := by
  obtain ⟨⟨other, first⟩, hit⟩ := (registry.before id).exists_locate_of_mem p table member holds
  have ⟨inside, same⟩ := get?_of_locate _ p other first hit
  have grown : (registry.before id).tables <+: registry.tables := List.take_prefix id registry.tables
  exact ⟨other, first, locate_of_prefix _ registry grown p _ hit, List.mem_of_getElem? inside, same⟩

theorem locate_of_alone (registry : Registry) (id : Nat) (table : Table) (held : registry.get? id = some table)
    (alone : ∀ other ∈ (registry.before id).tables, other.basename ≠ table.basename) :
    registry.locate (·.basename == table.basename) = some (id, table) := by
  apply locate_of_first registry _ id table held
  · exact beq_iff_eq.mpr rfl
  · intro other earlier below at_id
    have member := List.mem_of_getElem? (get?_before registry id other earlier below at_id)
    exact beq_eq_false_iff_ne.mpr (alone earlier member)

/-- A name that has a root table, asked for as a root under an alias that is free, gets that table exactly if it was
the first table of the name. Where another was declared before it, the request fails. A root table that was the first
has an alias that was declared or is its name, and any other has a numbered one. -/
theorem resolve_root_iff (requests : List (String × Bool)) (id : Nat) (root : Table)
    (held : (({} : Registry).resolveAll requests).get? id = some root) (marked : root.isRoot = true)
    (aliasName : String) (word : Text.IsWord aliasName)
    (free : aliasName ∉ (({} : Registry).resolveAll requests).aliases) :
    let registry := ({} : Registry).resolveAll requests
    let request := root.basename ++ " AS " ++ aliasName
    let first := ∀ other ∈ (registry.before id).tables, other.basename ≠ root.basename
    (first → registry.resolve request true = .ok ⟨id, registry, .tableReused request root.aliasName⟩) ∧
      (¬ first → registry.resolve request true = .error (.unresolvableTable root.basename aliasName)) ∧
      (first ↔ root.isDeclared = true ∨ root.aliasName = root.basename) ∧
      ∀ other ∈ (registry.before id).tables, other.basename = root.basename →
        other.isDeclared = true ∧ other.isRoot = false := by
  intro registry request first
  have registers := registers_resolveAll requests id root held
  have declared := registers.others_declared _ root marked
  have named := ((wellNamed_resolveAll requests).words root (List.mem_of_getElem? held)).1
  have readable := TableRequest.parse_declared root.basename aliasName named word
  refine ⟨?_, ?_, registers.alone_iff _ root marked, declared⟩
  · intro alone
    have hit := registry.locate_of_alone id root held alone
    have checked := registry.check_root_of_free root.basename aliasName free id root hit
    rw [if_pos marked] at checked
    exact resolve_of_reuse registry request _ true id root readable checked
  · intro preceded
    obtain ⟨other, other_first⟩ := not_forall.mp preceded
    obtain ⟨member, same⟩ := Classical.not_imp.mp other_first
    obtain ⟨number, earliest, hit, inside, alike⟩ := locate_of_mem_before registry id (·.basename == root.basename)
      other member (beq_iff_eq.mpr (Decidable.not_not.mp same))
    have plain := (declared earliest inside (beq_iff_eq.mp alike)).2
    have checked := registry.check_root_of_free root.basename aliasName free number earliest hit
    rw [plain, if_neg Bool.false_ne_true] at checked
    simp only [resolve, request, readable, checked, bind, Except.bind]

/-- A table that was declared behind the root table does not stand in its way. -/
theorem resolve_root_iff_declared :
    let registry := ({} : Registry).resolveAll [("users u", true), ("users m", false), ("users", false)]
    registry.get? 0 = some ⟨"users", "u", true, true⟩ ∧ Text.IsWord "AS" ∧ "AS" ∉ registry.aliases ∧
      registry.resolve ("users" ++ " AS " ++ "AS") true =
        .ok ⟨0, registry, .tableReused ("users" ++ " AS " ++ "AS") "u"⟩ := by
  intro registry
  have held : registry.get? 0 = some ⟨"users", "u", true, true⟩ := by decide +kernel
  have word : Text.IsWord "AS" := Text.isWord_of_mem_words "AS" "AS" (by decide)
  have free : "AS" ∉ registry.aliases := by decide +kernel
  refine ⟨held, word, free, ?_⟩
  have found := (resolve_root_iff _ 0 _ held rfl "AS" word free).1
  exact found (by simp [before])

/-- A table of the name was declared before the root table. -/
theorem root_refused :
    ¬ ∀ requests id root aliasName, (({} : Registry).resolveAll requests).get? id = some root →
      root.isRoot = true → Text.IsWord aliasName → aliasName ∉ (({} : Registry).resolveAll requests).aliases →
      ∃ event, (({} : Registry).resolveAll requests).resolve (root.basename ++ " AS " ++ aliasName) true =
        .ok ⟨id, ({} : Registry).resolveAll requests, event⟩ := by
  intro always
  obtain ⟨event, found⟩ := always [("users AS m", false), ("users", true)] 1 ⟨"users", "users1", true, false⟩ "u"
    (by decide +kernel) rfl (Text.isWord_of_mem_words "u" "u" (by decide)) (by decide +kernel)
  have refused : (({} : Registry).resolveAll [("users AS m", false), ("users", true)]).resolve
      ("users" ++ " AS " ++ "u") true = .error (.unresolvableTable "users" "u") := by decide +kernel
  rw [refused] at found
  cases found

end SqlSelect.Registry

import SqlSelect.Condition

namespace SqlSelect.Filters

/-- The open groups, from the innermost on, are found in the conditions again, each behind what was before it, and the
list in the innermost is as stated. -/
def Within : List OpenGroup → (List Condition → Prop) → List Condition → Prop
  | [], holds, conditions => holds conditions
  | group :: enclosing, holds, conditions =>
    Within enclosing (fun outer => ∃ inner later,
      outer = group.before ++ .group group.chain inner :: later ∧ holds inner) conditions

theorem Within.imp (enclosing : List OpenGroup) {holds other : List Condition → Prop} {conditions : List Condition}
    (within : Within enclosing holds conditions) (implies : ∀ list, holds list → other list) :
    Within enclosing other conditions := by
  induction enclosing generalizing holds other with
  | nil => exact implies conditions within
  | cons group enclosing ih =>
    apply ih within
    rintro outer ⟨inner, later, same, held⟩
    exact ⟨inner, later, same, implies inner held⟩

theorem within_plug (enclosing : List OpenGroup) (holds : List Condition → Prop) (current : List Condition)
    (held : holds current) : Within enclosing holds (plug current enclosing) := by
  induction enclosing generalizing holds current with
  | nil => exact held
  | cons group enclosing ih => exact ih _ _ ⟨current, [], rfl, held⟩

/-- The conditions hold all that the filters have written: the list that is addressed was added to at its end, and
outside the open groups no entry is another or gone. -/
def Keeps (filters : Filters) (conditions : List Condition) : Prop :=
  Within filters.enclosing (filters.current <+: ·) conditions

theorem keeps_conditions (filters : Filters) : filters.Keeps filters.conditions :=
  within_plug filters.enclosing _ filters.current List.prefix_rfl

theorem Keeps.push (filters : Filters) (condition : Condition) (conditions : List Condition)
    (keeps : (filters.push condition).Keeps conditions) : filters.Keeps conditions := by
  apply Within.imp filters.enclosing keeps
  intro list grown
  exact (List.prefix_append filters.current [condition]).trans grown

theorem Keeps.openGroup (filters : Filters) (chain : Chain) (conditions : List Condition)
    (keeps : (filters.openGroup chain).Keeps conditions) : filters.Keeps conditions := by
  apply Within.imp filters.enclosing keeps
  rintro list ⟨inner, later, rfl, _⟩
  exact List.prefix_append filters.current _

theorem Keeps.closeGroup (filters : Filters) (conditions : List Condition)
    (keeps : filters.closeGroup.Keeps conditions) : filters.Keeps conditions := by
  obtain ⟨current, _ | ⟨group, enclosing⟩⟩ := filters
  · exact keeps
  · apply Within.imp enclosing keeps
    rintro list ⟨later, rfl⟩
    refine ⟨current, later, ?_, List.prefix_rfl⟩
    exact List.append_assoc group.before [.group group.chain current] later

end SqlSelect.Filters

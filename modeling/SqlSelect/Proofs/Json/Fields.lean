import SqlSelect.Json.Basic

namespace SqlSelect.Json

def names (fields : List (String × Json)) : List String := fields.map (·.1)

def Ordered (fields : List (String × Json)) : Prop := (names fields).Pairwise (· < ·)

def putAll (added fields : List (String × Json)) : List (String × Json) :=
  added.foldl (fun object field => put field.1 field.2 object) fields

theorem mem_names_put (name other : String) (value : Json) (fields : List (String × Json)) :
    other ∈ names (put name value fields) ↔ other = name ∨ other ∈ names fields := by
  fun_induction put name value fields with
  | case1 => simp [names]
  | case2 kept fields => simp [names]
  | case3 second kept fields _ _ => simp [names]
  | case4 second kept fields _ _ ih =>
    simp only [names, List.map_cons, List.mem_cons] at ih ⊢
    rw [ih, or_left_comm]

theorem Ordered.put (name : String) (value : Json) (fields : List (String × Json)) (ordered : Ordered fields) :
    Ordered (put name value fields) := by
  fun_induction Json.put name value fields with
  | case1 => exact List.pairwise_singleton _ _
  | case2 kept fields => exact ordered
  | case3 second kept fields _ smaller =>
    have behind := (List.pairwise_cons.mp ordered).1
    refine List.pairwise_cons.mpr ⟨?_, ordered⟩
    intro other member
    rcases List.mem_cons.mp member with rfl | member
    · exact smaller
    · exact String.lt_trans smaller (behind other member)
  | case4 second kept fields differs greater ih =>
    obtain ⟨behind, tail⟩ := List.pairwise_cons.mp ordered
    refine List.pairwise_cons.mpr ⟨?_, ih tail⟩
    intro other member
    rcases (mem_names_put name other value fields).mp member with rfl | member
    · exact Std.lt_of_le_of_ne (String.not_lt.mp greater) fun same => differs same.symm
    · exact behind other member

theorem ordered_putAll (added fields : List (String × Json)) (ordered : Ordered fields) :
    Ordered (putAll added fields) := by
  induction added generalizing fields with
  | nil => exact ordered
  | cons field added ih => exact ih _ (ordered.put field.1 field.2 fields)

theorem mem_names_putAll (added fields : List (String × Json)) (name : String) :
    name ∈ names (putAll added fields) ↔ name ∈ names added ∨ name ∈ names fields := by
  induction added generalizing fields with
  | nil => simp [putAll, names]
  | cons field added ih =>
    rw [putAll, List.foldl_cons, ← putAll, ih, mem_names_put]
    simp only [names, List.map_cons, List.mem_cons]
    rw [or_left_comm, or_assoc]

/-- What is put later under a name replaces what was put before. -/
theorem field?_putAll (added fields : List (String × Json)) (name : String) :
    field? name (putAll added fields) = (added.reverse.lookup name).or (field? name fields) := by
  induction added generalizing fields with
  | nil => rfl
  | cons field added ih =>
    rw [putAll, List.foldl_cons, ← putAll, ih, List.reverse_cons, List.lookup_append, Option.or_assoc]
    congr 1
    by_cases same : name = field.1
    · rw [same, field?_put_self, List.lookup_cons_self, Option.some_or]
    · have other : (name == field.1) = false := beq_eq_false_iff_ne.mpr same
      rw [field?_put_other name field.1 field.2 fields same, List.lookup_cons, other]
      rfl

end SqlSelect.Json

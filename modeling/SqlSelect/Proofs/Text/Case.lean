import SqlSelect.Proofs.Text.Partition
import SqlSelect.Text.Ascii

namespace SqlSelect.Text

theorem toNat_toUpper (c : Char) :
    c.toUpper.toNat = if 97 ≤ c.toNat ∧ c.toNat ≤ 122 then c.toNat - 32 else c.toNat := by
  have bounds : ('a'.val ≤ c.val ∧ c.val ≤ 'z'.val) ↔ 97 ≤ c.toNat ∧ c.toNat ≤ 122 := by
    simp only [UInt32.le_iff_toNat_le]
    rfl
  unfold Char.toUpper
  by_cases small : 97 ≤ c.toNat ∧ c.toNat ≤ 122
  · rw [dif_pos (bounds.mpr small), if_pos small]
    have shift : (c.val + ('A'.val - 'a'.val)).toNat = (c.toNat + (2 ^ 32 - 32)) % 2 ^ 32 := UInt32.toNat_add ..
    change (c.val + ('A'.val - 'a'.val)).toNat = c.toNat - 32
    omega
  · rw [dif_neg (mt bounds.mp small), if_neg small]

theorem toUpper_eq_iff (c large small : Char) (capital : 65 ≤ large.toNat ∧ large.toNat ≤ 90)
    (shift : small.toNat = large.toNat + 32) : c.toUpper = large ↔ c = large ∨ c = small := by
  rw [← Char.toNat_inj, ← Char.toNat_inj, ← Char.toNat_inj, toNat_toUpper, shift]
  split <;> omega

/-- No blank is a letter, and no letter becomes a blank. -/
theorem isBlank_toUpper (c : Char) : isBlank c.toUpper = isBlank c := by
  rw [Bool.eq_iff_iff]
  simp only [isBlank, toNat_toUpper, Bool.or_eq_true, Bool.and_eq_true, decide_eq_true_eq, beq_iff_eq]
  split <;> omega

theorem toList_upper (text : String) : (upper text).toList = text.toList.map Char.toUpper := String.toList_ofList

theorem upper_append (left right : String) : upper (left ++ right) = upper left ++ upper right := by
  rw [upper, String.toList_append, List.map_append, String.ofList_append, ← upper, ← upper]

theorem IsBlank.upper (blanks : List Char) (blank : IsBlank blanks) : IsBlank (blanks.map Char.toUpper) := by
  intro c member
  obtain ⟨d, inside, rfl⟩ := List.mem_map.mp member
  rw [isBlank_toUpper]
  exact blank d inside

theorem Ends.upper (rest : List Char) (ends : Ends rest) : Ends (rest.map Char.toUpper) := by
  intro c head
  rw [List.head?_map, Option.map_eq_some_iff] at head
  obtain ⟨d, first, rfl⟩ := head
  rw [isBlank_toUpper]
  exact ends d first

theorem IsWord.upper (word : String) (solid : IsWord word) : IsWord (upper word) := by
  rw [IsWord, toList_upper]
  refine ⟨by simpa using solid.1, ?_⟩
  intro c member
  obtain ⟨d, inside, rfl⟩ := List.mem_map.mp member
  rw [isBlank_toUpper]
  exact solid.2 d inside

theorem Parts.upper (cs : List Char) (words : List String) (parts : Parts cs words) :
    Parts (cs.map Char.toUpper) (words.map Text.upper) := by
  induction parts with
  | blank blanks blank => exact .blank _ blank.upper
  | word front word rest words blank solid ends later ih =>
    rw [List.map_append, List.map_append, ← toList_upper]
    exact .word _ (Text.upper word) _ _ blank.upper solid.upper ends.upper ih

theorem words_upper (text : String) : words (upper text) = (words text).map upper := by
  rw [words_eq_iff, toList_upper]
  exact ((words_eq_iff text _).mp rfl).upper

theorem runs_around (front cs tail : List Char) (opened : IsBlank front) (closed : IsBlank tail) :
    runs (front ++ cs ++ tail) = runs cs := by
  rw [runs_append_of_ends _ tail closed.ends, runs_of_isBlank tail closed, List.append_nil,
    runs_blank_append front cs opened]

theorem runs_between (left gap right : List Char) (blank : IsBlank gap) (filled : gap ≠ []) :
    runs (left ++ gap ++ right) = runs left ++ runs right := by
  rw [List.append_assoc, runs_append_of_ends left _ (blank.ends_append gap right filled),
    runs_blank_append gap right blank]

theorem words_spaced (left right : String) : words (left ++ " " ++ right) = words left ++ words right := by
  have space : " ".toList = [' '] := by rfl
  rw [words, String.toList_append, String.toList_append, space,
    runs_between left.toList [' '] right.toList (by decide) (by decide), List.map_append, ← words, ← words]

theorem words_intercalate (those : List String) (solid : ∀ word ∈ those, IsWord word) :
    words (" ".intercalate those) = those := by
  induction those with
  | nil => rfl
  | cons word others ih =>
    have first := words_of_isWord word (solid word List.mem_cons_self)
    have later := ih fun other member => solid other (List.mem_cons_of_mem word member)
    cases others with
    | nil => rw [String.intercalate_singleton, first]
    | cons second others =>
      rw [String.intercalate_cons_cons, words_spaced, first, later, List.singleton_append]

theorem upper_intercalate (those : List String) :
    upper (" ".intercalate those) = " ".intercalate (those.map upper) := by
  induction those with
  | nil => rfl
  | cons word others ih =>
    cases others with
    | nil => rw [String.intercalate_singleton, List.map_singleton, String.intercalate_singleton]
    | cons second others =>
      rw [String.intercalate_cons_cons, upper_append, upper_append, ih]
      exact String.intercalate_cons_cons.symm

end SqlSelect.Text

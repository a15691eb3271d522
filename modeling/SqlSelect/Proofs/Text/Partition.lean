import SqlSelect.Proofs.Text.Word
import Mathlib.Data.List.TakeWhile

namespace SqlSelect.Text

def IsBlank (blanks : List Char) : Prop := ∀ c ∈ blanks, isBlank c = true

instance (blanks : List Char) : Decidable (IsBlank blanks) :=
  decidable_of_iff (blanks.all isBlank = true) List.all_eq_true

def Ends (rest : List Char) : Prop := ∀ c, rest.head? = some c → isBlank c = true

theorem IsBlank.ends (blanks : List Char) (blank : IsBlank blanks) : Ends blanks :=
  fun c head => blank c (List.mem_of_mem_head? head)

theorem IsBlank.ends_append (blanks rest : List Char) (blank : IsBlank blanks) (filled : blanks ≠ []) :
    Ends (blanks ++ rest) := by
  obtain ⟨mark, others, rfl⟩ := List.exists_cons_of_ne_nil filled
  exact blank.ends

/-- The text is made of these words. Blanks may stand before a word and behind the last; a word ends at a blank or with
the text, so it is as long as it can be. -/
inductive Parts : List Char → List String → Prop where
  | blank (blanks : List Char) (blank : IsBlank blanks) : Parts blanks []
  | word (front : List Char) (word : String) (rest : List Char) (words : List String) (blank : IsBlank front)
    (solid : IsWord word) (ends : Ends rest) (later : Parts rest words) :
    Parts (front ++ word.toList ++ rest) (word :: words)

theorem runs_of_isBlank (blanks : List Char) (blank : IsBlank blanks) : runs blanks = [] := by
  have dropped := runs_blank_append blanks [] blank
  rwa [List.append_nil] at dropped

theorem runs_append_of_ends (left rest : List Char) (ends : Ends rest) :
    runs (left ++ rest) = runs left ++ runs rest := by
  cases rest with
  | nil => simp [runs]
  | cons mark rest =>
    have blank := ends mark rfl
    rw [runs_append_blank left rest mark blank, runs_blank_cons mark rest blank]

theorem Parts.runs_eq (cs : List Char) (words : List String) (parts : Parts cs words) :
    (runs cs).map String.ofList = words := by
  induction parts with
  | blank blanks blank => rw [runs_of_isBlank blanks blank, List.map_nil]
  | word front word rest words blank solid ends later ih =>
    rw [List.append_assoc, runs_blank_append front _ blank, runs_append_of_ends word.toList rest ends,
      runs_of_not_blank word.toList solid.1 solid.2, List.map_append, ih, List.map_singleton, String.ofList_toList,
      List.singleton_append]

/-- Unless it is blank, a text has a first word. -/
theorem exists_first_word (cs : List Char) : IsBlank cs ∨
    ∃ front word rest, cs = front ++ word.toList ++ rest ∧ IsBlank front ∧ IsWord word ∧ Ends rest := by
  have split := List.takeWhile_append_dropWhile (p := isBlank) (l := cs)
  have front : IsBlank (cs.takeWhile isBlank) := fun c member => List.mem_takeWhile_imp member
  have opened := List.head?_dropWhile_not isBlank cs
  cases shape : cs.dropWhile isBlank with
  | nil =>
    rw [shape, List.append_nil] at split
    rw [split] at front
    exact .inl front
  | cons first others =>
    rw [shape] at split opened
    let solid (c : Char) : Bool := !isBlank c
    have whole := List.takeWhile_append_dropWhile (p := solid) (l := first :: others)
    have ended := List.head?_dropWhile_not solid (first :: others)
    have starts : solid first = true := by simpa [solid] using opened
    refine .inr ⟨_, String.ofList ((first :: others).takeWhile solid), (first :: others).dropWhile solid, ?_, front,
      ⟨?_, ?_⟩, ?_⟩
    · rw [String.toList_ofList, List.append_assoc, whole, split]
    · rw [String.toList_ofList, List.takeWhile_cons_of_pos starts]
      exact List.cons_ne_nil first _
    · intro c member
      rw [String.toList_ofList] at member
      simpa [solid] using List.mem_takeWhile_imp member
    · intro c head
      rw [head] at ended
      simpa [solid] using ended

theorem exists_parts (cs : List Char) : ∃ words, Parts cs words := by
  rcases exists_first_word cs with blank | ⟨front, word, rest, rfl, blank, solid, ends⟩
  · exact ⟨[], .blank cs blank⟩
  · have filled := List.length_pos_iff.mpr solid.1
    obtain ⟨words, later⟩ := exists_parts rest
    exact ⟨word :: words, .word front word rest words blank solid ends later⟩
termination_by cs.length
decreasing_by
  subst_vars
  simp only [List.length_append]
  omega

theorem Parts.unique (cs : List Char) (words others : List String) (parts : Parts cs words)
    (same : Parts cs others) : words = others := by
  rw [← parts.runs_eq, same.runs_eq]

/-- The words that are read from a text are those that it is made of. -/
theorem words_eq_iff (text : String) (those : List String) : words text = those ↔ Parts text.toList those := by
  constructor
  · rintro rfl
    obtain ⟨made, parts⟩ := exists_parts text.toList
    rwa [words, parts.runs_eq]
  · exact Parts.runs_eq text.toList those

end SqlSelect.Text

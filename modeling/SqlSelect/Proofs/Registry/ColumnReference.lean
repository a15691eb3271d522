import SqlSelect.Column
import SqlSelect.Proofs.Text.Strip
import SqlSelect.Proofs.Text.Word

namespace SqlSelect.ColumnReference

inductive Spells : String → ColumnReference → Prop where
  | bare (text name : String) (single : '.' ∉ text.toList) (pads : Text.Pads text name) : Spells text ⟨none, name⟩
  | qualified (left right request name : String) (first : '.' ∉ left.toList) (before : Text.Pads left request)
    (behind : Text.Pads right name) : Spells (left ++ "." ++ right) ⟨some request, name⟩

theorem toList_dotted (left right : String) : (left ++ "." ++ right).toList = left.toList ++ '.' :: right.toList := by
  have dot : ".".toList = ['.'] := by rfl
  rw [String.toList_append, String.toList_append, dot, List.append_assoc, List.singleton_append]

theorem exists_first_dot (text : String) (dotted : '.' ∈ text.toList) :
    ∃ left right, text = left ++ "." ++ right ∧ '.' ∉ left.toList := by
  obtain ⟨left, right, split, first⟩ := List.eq_append_cons_of_mem dotted
  refine ⟨String.ofList left, String.ofList right, ?_, by rwa [String.toList_ofList]⟩
  rw [← String.toList_inj, toList_dotted, String.toList_ofList, String.toList_ofList, split]

theorem parse_of_single (text : String) (single : '.' ∉ text.toList) :
    parse text = if Text.isAllBlank text then .error (.invalidReference (.malformedColumn (Text.trim text)))
      else .ok ⟨none, Text.trim text⟩ := by
  have whole : Text.cut '.' (Text.strip text.toList) = none := by
    rw [Text.cut_eq_none_iff]
    intro dot
    obtain ⟨front, tail, _, _, around⟩ := Text.exists_strip text.toList
    rw [around] at single
    exact single (List.mem_append_left _ (List.mem_append_right _ dot))
  simp only [parse, whole, Text.isEmpty_strip, Text.trim]

theorem parse_of_dot (left right : String) (first : '.' ∉ left.toList) :
    parse (left ++ "." ++ right) =
      if Text.isAllBlank left || Text.isAllBlank right then
        .error (.invalidReference (.malformedColumn (Text.trim (left ++ "." ++ right))))
      else .ok ⟨some (Text.trim left), Text.trim right⟩ := by
  have split : Text.cut '.' (Text.strip (left ++ "." ++ right).toList) =
      some (left.toList.dropWhile Text.isBlank, right.toList.rdropWhile Text.isBlank) := by
    rw [toList_dotted, Text.strip_append_cons _ _ '.' (by rfl), Text.cut_eq_some_iff]
    exact ⟨rfl, fun dot => first ((List.dropWhile_sublist Text.isBlank).subset dot)⟩
  simp only [parse, split, Text.strip_dropWhile, Text.strip_rdropWhile, Text.isEmpty_strip, Text.trim]

theorem parse_eq_ok_iff (text : String) (parsed : ColumnReference) : parse text = .ok parsed ↔ Spells text parsed := by
  constructor
  · intro readable
    by_cases dotted : '.' ∈ text.toList
    · obtain ⟨left, right, rfl, first⟩ := exists_first_dot text dotted
      rw [parse_of_dot left right first] at readable
      split at readable
      · cases readable
      · rename_i filled
        cases readable
        simp only [Bool.or_eq_true, not_or, Bool.not_eq_true] at filled
        exact .qualified left right _ _ first ((Text.pads_iff left _).mpr ⟨filled.1, rfl⟩)
          ((Text.pads_iff right _).mpr ⟨filled.2, rfl⟩)
    · rw [parse_of_single text dotted] at readable
      split at readable
      · cases readable
      · rename_i filled
        cases readable
        exact .bare text _ dotted ((Text.pads_iff text _).mpr ⟨Bool.eq_false_iff.mpr filled, rfl⟩)
  · intro spells
    cases spells with
    | bare text name single pads =>
      obtain ⟨filled, rfl⟩ := (Text.pads_iff _ _).mp pads
      rw [parse_of_single _ single, filled]
      rfl
    | qualified left right request name first before behind =>
      obtain ⟨filled, rfl⟩ := (Text.pads_iff _ _).mp before
      obtain ⟨other, rfl⟩ := (Text.pads_iff _ _).mp behind
      rw [parse_of_dot _ _ first, filled, other]
      rfl

def Malformed (text : String) : Prop :=
  text = "" ∨ ∃ left right, text = left ++ "." ++ right ∧ '.' ∉ left.toList ∧
    (Text.isAllBlank left = true ∨ Text.isAllBlank right = true)

theorem parse_trim (text : String) : parse (Text.trim text) = parse text := by
  have same : Text.strip (Text.trim text).toList = Text.strip text.toList := by
    rw [Text.trim, String.toList_ofList, Text.strip_of_isTrimmed _ (Text.isTrimmed_strip text.toList)]
  rw [parse, parse, same]

section

variable (reference : String)

theorem parse_of_malformed (malformed : Malformed (Text.trim reference)) :
    parse reference = .error (.invalidReference (.malformedColumn (Text.trim reference))) := by
  rw [← parse_trim]
  rcases malformed with empty | ⟨left, right, split, first, blank⟩
  · rw [empty]
    rfl
  · rw [← Bool.or_eq_true] at blank
    rw [split, parse_of_dot left right first, if_pos blank, ← split, Text.trim_trim]

theorem parse_of_name (filled : Text.trim reference ≠ "") (single : '.' ∉ (Text.trim reference).toList) :
    parse reference = .ok ⟨none, Text.trim reference⟩ := by
  rw [ne_eq, Text.trim_eq_empty_iff] at filled
  rw [← parse_trim, parse_of_single _ single, Text.trim_trim, if_neg]
  rwa [← Text.trim_eq_empty_iff, Text.trim_trim, Text.trim_eq_empty_iff]

theorem parse_of_halves (left right : String) (split : Text.trim reference = left ++ "." ++ right)
    (first : '.' ∉ left.toList) (before : Text.isAllBlank left = false) (behind : Text.isAllBlank right = false) :
    parse reference = .ok ⟨some (Text.trim left), Text.trim right⟩ := by
  rw [← parse_trim, split, parse_of_dot left right first, before, behind]
  rfl

/-- Every reference is of one of three kinds. -/
theorem parse_cases :
    let text := Text.trim reference
    (Malformed text ∧ parse reference = .error (.invalidReference (.malformedColumn text))) ∨
      (text ≠ "" ∧ '.' ∉ text.toList ∧ parse reference = .ok ⟨none, text⟩) ∨
      ∃ left right, text = left ++ "." ++ right ∧ parse reference = .ok ⟨some (Text.trim left), Text.trim right⟩ := by
  intro text
  by_cases malformed : Malformed text
  · exact .inl ⟨malformed, parse_of_malformed reference malformed⟩
  · right
    obtain ⟨filled, sound⟩ := not_or.mp malformed
    by_cases dotted : '.' ∈ text.toList
    · obtain ⟨left, right, split, first⟩ := exists_first_dot text dotted
      have halves : ¬ (Text.isAllBlank left = true ∨ Text.isAllBlank right = true) :=
        fun blank => sound ⟨left, right, split, first, blank⟩
      simp only [not_or, Bool.not_eq_true] at halves
      exact .inr ⟨left, right, split, parse_of_halves reference left right split first halves.1 halves.2⟩
    · exact .inl ⟨filled, dotted, parse_of_name reference filled dotted⟩

end

theorem not_mem_of_isAllBlank (text : String) (blank : Text.isAllBlank text = true) : '.' ∉ text.toList := by
  intro dot
  have white := List.all_eq_true.mp blank '.' dot
  cases white

/-- Blanks may stand around a request, a dot and a name. -/
theorem parse_of_padded (front request before behind column tail : String) (opened : Text.isAllBlank front = true)
    (left : Text.isAllBlank before = true) (right : Text.isAllBlank behind = true) (closed : Text.isAllBlank tail = true)
    (named : Text.isAllBlank request = false) (single : '.' ∉ request.toList) (filled : Text.isAllBlank column = false) :
    parse (front ++ request ++ before ++ "." ++ (behind ++ column ++ tail)) =
      .ok ⟨some (Text.trim request), Text.trim column⟩ := by
  have first : '.' ∉ (front ++ request ++ before).toList := by
    simp only [String.toList_append, List.mem_append, not_or]
    exact ⟨⟨not_mem_of_isAllBlank front opened, single⟩, not_mem_of_isAllBlank before left⟩
  rw [parse_of_dot _ _ first, Text.isAllBlank_append front request before opened left, named,
    Text.isAllBlank_append behind column tail right closed, filled, Text.trim_append front request before opened left,
    Text.trim_append behind column tail right closed]
  rfl

theorem parse_of_isWord (name column : String) (word : Text.IsWord name) (single : '.' ∉ name.toList)
    (filled : Text.isAllBlank column = false) : parse (name ++ "." ++ column) = .ok ⟨some name, Text.trim column⟩ := by
  have same : Text.trim name = name := by
    rw [Text.trim, Text.strip_of_not_blank name.toList word.2, String.ofList_toList]
  have named : Text.isAllBlank name = false := by
    rw [← Bool.not_eq_true, ← Text.trim_eq_empty_iff, same, ← String.toList_eq_nil_iff]
    exact word.1
  rw [parse_of_dot name column single, named, filled, same]
  rfl

end SqlSelect.ColumnReference

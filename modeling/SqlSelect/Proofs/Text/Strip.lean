import Mathlib.Data.List.DropRight
import SqlSelect.Proofs.Text.Partition

namespace SqlSelect.Text

theorem strip_eq_rdropWhile (cs : List Char) : strip cs = (cs.dropWhile isBlank).rdropWhile isBlank := rfl

section

variable (p : Char → Bool) (left right : List Char) (mark : Char) (kept : p mark = false)

include kept

theorem dropWhile_append_cons : (left ++ mark :: right).dropWhile p = left.dropWhile p ++ mark :: right := by
  rw [List.dropWhile_append]
  split
  · rename_i gone
    rw [List.isEmpty_iff.mp gone, List.dropWhile_cons_of_neg (by simp [kept]), List.nil_append]
  · rfl

theorem rdropWhile_append_cons : (left ++ mark :: right).rdropWhile p = left ++ mark :: right.rdropWhile p := by
  have turned : (left ++ mark :: right).reverse = right.reverse ++ mark :: left.reverse := by simp
  rw [List.rdropWhile, turned, dropWhile_append_cons p _ _ mark kept]
  simp [List.rdropWhile]

end

theorem dropWhile_rdropWhile (p : Char → Bool) (cs : List Char) :
    (cs.rdropWhile p).dropWhile p = (cs.dropWhile p).rdropWhile p := by
  by_cases rest : ∃ mark ∈ cs, p mark = false
  · obtain ⟨mark, member, kept⟩ := rest
    obtain ⟨left, right, rfl⟩ := List.append_of_mem member
    rw [rdropWhile_append_cons p left right mark kept, dropWhile_append_cons p left _ mark kept,
      dropWhile_append_cons p left right mark kept, rdropWhile_append_cons p _ right mark kept]
  · have gone : ∀ c ∈ cs, p c = true := by simpa using rest
    rw [List.rdropWhile_eq_nil_iff.mpr gone, List.dropWhile_eq_nil_iff.mpr gone]
    rfl

theorem strip_rdropWhile (cs : List Char) : strip (cs.rdropWhile isBlank) = strip cs := by
  rw [strip_eq_rdropWhile, strip_eq_rdropWhile, dropWhile_rdropWhile, List.rdropWhile_idempotent]

theorem strip_dropWhile (cs : List Char) : strip (cs.dropWhile isBlank) = strip cs := by
  rw [strip_eq_rdropWhile, List.dropWhile_idempotent, ← strip_eq_rdropWhile]

/-- What is no blank keeps the blanks that stand next to it. -/
theorem strip_append_cons (left right : List Char) (mark : Char) (solid : isBlank mark = false) :
    strip (left ++ mark :: right) = left.dropWhile isBlank ++ mark :: right.rdropWhile isBlank := by
  rw [strip_eq_rdropWhile, dropWhile_append_cons isBlank left right mark solid,
    rdropWhile_append_cons isBlank _ right mark solid]

theorem strip_eq_nil_iff (cs : List Char) : strip cs = [] ↔ ∀ c ∈ cs, isBlank c = true := by
  rw [strip_eq_rdropWhile, List.rdropWhile_eq_nil_iff]
  constructor
  · intro rest c member
    rw [← List.takeWhile_append_dropWhile (p := isBlank) (l := cs)] at member
    rcases List.mem_append.mp member with member | member
    · exact List.mem_takeWhile_imp member
    · exact rest c member
  · intro all c member
    exact all c ((List.dropWhile_sublist isBlank).subset member)

def IsTrimmed (cs : List Char) : Prop :=
  (∀ c, cs.head? = some c → isBlank c = false) ∧ ∀ c, cs.getLast? = some c → isBlank c = false

theorem strip_of_isTrimmed (cs : List Char) (trimmed : IsTrimmed cs) : strip cs = cs := by
  have front : cs.dropWhile isBlank = cs := by
    cases cs with
    | nil => rfl
    | cons c cs => rw [List.dropWhile_cons_of_neg (by simp [trimmed.1 c rfl])]
  rw [strip_eq_rdropWhile, front, List.rdropWhile_eq_self_iff]
  intro filled
  simp [trimmed.2 _ (List.getLast?_eq_some_getLast filled)]

theorem strip_of_not_blank (cs : List Char) (solid : ∀ c ∈ cs, isBlank c = false) : strip cs = cs := by
  apply strip_of_isTrimmed
  constructor
  · exact fun c head => solid c (List.mem_of_head? head)
  · exact fun c last => solid c (List.mem_of_getLast? last)

theorem isTrimmed_strip (cs : List Char) : IsTrimmed (strip cs) := by
  constructor
  · intro c head
    rw [strip_eq_rdropWhile, ← dropWhile_rdropWhile] at head
    have opened := List.head?_dropWhile_not isBlank (cs.rdropWhile isBlank)
    simpa [head] using opened
  · intro c last
    have filled : strip cs ≠ [] := by
      intro gone
      rw [gone] at last
      cases last
    rw [List.getLast?_eq_some_getLast filled, Option.some.injEq] at last
    rw [← last]
    exact Bool.eq_false_iff.mpr (List.rdropWhile_last_not isBlank (cs.dropWhile isBlank) filled)

theorem exists_strip (cs : List Char) :
    ∃ front tail, IsBlank front ∧ IsBlank tail ∧ cs = front ++ strip cs ++ tail := by
  refine ⟨cs.takeWhile isBlank, (cs.dropWhile isBlank).rtakeWhile isBlank, ?_, ?_, ?_⟩
  · exact fun c member => List.mem_takeWhile_imp member
  · exact fun c member => List.mem_rtakeWhile_imp member
  · rw [strip_eq_rdropWhile, List.append_assoc, List.rdropWhile_append_rtakeWhile, List.takeWhile_append_dropWhile]

theorem strip_append (front cs tail : List Char) (opened : IsBlank front) (closed : IsBlank tail) :
    strip (front ++ cs ++ tail) = strip cs := by
  have ended : (cs ++ tail).rdropWhile isBlank = cs.rdropWhile isBlank := by
    rw [List.rdropWhile, List.reverse_append,
      List.dropWhile_append_of_pos fun c member => closed c (List.mem_reverse.mp member)]
    rfl
  rw [List.append_assoc, strip_eq_rdropWhile, List.dropWhile_append_of_pos opened, ← strip_eq_rdropWhile,
    ← strip_rdropWhile, ended, strip_rdropWhile]

theorem strip_eq_iff (cs body : List Char) :
    strip cs = body ↔ IsTrimmed body ∧ ∃ front tail, IsBlank front ∧ IsBlank tail ∧ cs = front ++ body ++ tail := by
  constructor
  · rintro rfl
    exact ⟨isTrimmed_strip cs, exists_strip cs⟩
  · rintro ⟨trimmed, front, tail, opened, closed, rfl⟩
    rw [strip_append front body tail opened closed, strip_of_isTrimmed body trimmed]

theorem trim_eq_empty_iff (text : String) : trim text = "" ↔ isAllBlank text = true := by
  rw [trim, String.ofList_eq_empty_iff, strip_eq_nil_iff, isAllBlank, List.all_eq_true]

theorem isEmpty_strip (text : String) : (strip text.toList).isEmpty = isAllBlank text := by
  rw [Bool.eq_iff_iff, ← trim_eq_empty_iff, trim, String.ofList_eq_empty_iff, List.isEmpty_iff]

theorem trim_trim (text : String) : trim (trim text) = trim text := by
  rw [trim, trim, String.toList_ofList, strip_of_isTrimmed _ (isTrimmed_strip text.toList)]

theorem trim_append (front text tail : String) (opened : isAllBlank front = true) (closed : isAllBlank tail = true) :
    trim (front ++ text ++ tail) = trim text := by
  rw [isAllBlank, List.all_eq_true] at opened closed
  rw [trim, String.toList_append, String.toList_append, strip_append _ _ _ opened closed, ← trim]

theorem isAllBlank_append (front text tail : String) (opened : isAllBlank front = true)
    (closed : isAllBlank tail = true) : isAllBlank (front ++ text ++ tail) = isAllBlank text := by
  rw [Bool.eq_iff_iff, ← trim_eq_empty_iff, ← trim_eq_empty_iff, trim_append front text tail opened closed]

structure Pads (text body : String) : Prop where
  filled : body ≠ ""
  trimmed : IsTrimmed body.toList
  around : ∃ front tail, IsBlank front ∧ IsBlank tail ∧ text.toList = front ++ body.toList ++ tail

theorem pads_iff (text body : String) : Pads text body ↔ isAllBlank text = false ∧ trim text = body := by
  have letters : trim text = body ↔ strip text.toList = body.toList := by
    rw [trim, ← String.toList_inj, String.toList_ofList]
  rw [← Bool.not_eq_true, ← trim_eq_empty_iff]
  constructor
  · rintro ⟨filled, trimmed, around⟩
    have same := letters.mpr ((strip_eq_iff _ _).mpr ⟨trimmed, around⟩)
    exact ⟨by rwa [same], same⟩
  · rintro ⟨filled, rfl⟩
    obtain ⟨trimmed, around⟩ := (strip_eq_iff _ _).mp (letters.mp rfl)
    exact ⟨filled, trimmed, around⟩

end SqlSelect.Text

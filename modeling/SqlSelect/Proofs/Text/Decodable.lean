import SqlSelect.Text.Quoted

namespace SqlSelect.Text

section

variable {α β : Type}

/-- From a text that `write` begins and `stop` allows to go on, what was written and what follows are known. -/
def Decodable (write : α → List Char) (stop : List Char → Prop) : Prop :=
  ∀ x y r s, stop r → stop s → write x ++ r = write y ++ s → x = y ∧ r = s

variable {write : α → List Char} {stop : List Char → Prop}

theorem Decodable.weaken {tight : List Char → Prop} (decodable : Decodable write stop)
    (weaker : ∀ r, tight r → stop r) : Decodable write tight :=
  fun x y r s left right same => decodable x y r s (weaker r left) (weaker s right) same

theorem Decodable.lead (decodable : Decodable write stop) (mark : List Char) :
    Decodable (fun x => mark ++ write x) stop := by
  intro x y r s left right same
  rw [List.append_assoc, List.append_assoc] at same
  exact decodable x y r s left right (List.append_cancel_left same)

theorem Decodable.pair {next : β → List Char} {far : List Char → Prop} (decodable : Decodable write stop)
    (second : Decodable next far) (joins : ∀ y r, far r → stop (next y ++ r)) :
    Decodable (fun both : α × β => write both.1 ++ next both.2) far := by
  rintro ⟨x, u⟩ ⟨y, v⟩ r s left right same
  rw [List.append_assoc, List.append_assoc] at same
  obtain ⟨rfl, rest⟩ := decodable x y _ _ (joins u r left) (joins v s right) same
  obtain ⟨rfl, behind⟩ := second u v r s left right rest
  exact ⟨rfl, behind⟩

theorem Decodable.option {far : List Char → Prop} (decodable : Decodable write stop)
    (weaker : ∀ r, far r → stop r) (apart : ∀ x r, ¬ far (write x ++ r)) :
    Decodable (fun x : Option α => x.elim [] write) far := by
  intro x y r s left right same
  rcases x with _ | x <;> rcases y with _ | y <;>
    simp only [Option.elim_none, Option.elim_some, List.nil_append] at same
  · exact ⟨rfl, same⟩
  · rw [same] at left
    exact absurd left (apart y s)
  · rw [← same] at right
    exact absurd right (apart x r)
  · obtain ⟨rfl, rest⟩ := decodable x y r s (weaker r left) (weaker s right) same
    exact ⟨rfl, rest⟩

theorem Decodable.flatMap {far : List Char → Prop} (decodable : Decodable write stop)
    (weaker : ∀ r, far r → stop r) (joins : ∀ x r, stop (write x ++ r))
    (apart : ∀ x r, ¬ far (write x ++ r)) :
    Decodable (fun items : List α => items.flatMap write) far := by
  -- what follows an item is the next item or, behind the last one, what follows them all
  have onward : ∀ (items : List α) (r : List Char), far r → stop (items.flatMap write ++ r) := by
    intro items r last
    cases items with
    | nil => exact weaker r last
    | cons x items =>
      rw [List.flatMap_cons, List.append_assoc]
      exact joins x _
  intro items
  induction items with
  | nil =>
    intro others r s left right same
    cases others with
    | nil => exact ⟨rfl, same⟩
    | cons y others =>
      simp only [List.flatMap_nil, List.nil_append, List.flatMap_cons, List.append_assoc] at same
      rw [same] at left
      exact absurd left (apart y _)
  | cons x items ih =>
    intro others r s left right same
    cases others with
    | nil =>
      simp only [List.flatMap_nil, List.nil_append, List.flatMap_cons, List.append_assoc] at same
      rw [← same] at right
      exact absurd right (apart x _)
    | cons y others =>
      simp only [List.flatMap_cons, List.append_assoc] at same
      obtain ⟨rfl, rest⟩ := decodable x y _ _ (onward items r left) (onward others s right) same
      obtain ⟨rfl, behind⟩ := ih others r s left right rest
      exact ⟨rfl, behind⟩

end

def quoted (mark : Char) (text : String) : List Char := mark :: double mark text.toList ++ [mark]

theorem decodable_quoted (mark : Char) : Decodable (quoted mark) (·.head? ≠ some mark) := by
  intro x y r s left right same
  simp only [quoted, List.cons_append, List.append_assoc, List.nil_append, List.cons.injEq, true_and] at same
  have first := takeQuoted?_double mark x.toList r left
  rw [same, takeQuoted?_double mark y.toList s right] at first
  simp only [Option.some.injEq, Prod.mk.injEq] at first
  exact ⟨String.toList_inj.mp first.1.symm, first.2.symm⟩

def NoDigit (rest : List Char) : Prop := ∀ c, rest.head? = some c → c.isDigit = false

theorem takeWhile_digits (n : Nat) (rest : List Char) (last : NoDigit rest) :
    (Nat.toDigits 10 n ++ rest).takeWhile Char.isDigit = Nat.toDigits 10 n := by
  rw [List.takeWhile_append_of_pos]
  · have stopped : rest.takeWhile Char.isDigit = [] := by
      cases rest with
      | nil => rfl
      | cons c rest => rw [List.takeWhile_cons_of_neg (by simp [last c rfl])]
    rw [stopped, List.append_nil]
  · intro c member
    exact Nat.isDigit_of_mem_toDigits (by decide) (by decide) member

theorem decodable_natural : Decodable (Nat.toDigits 10) NoDigit := by
  intro x y r s left right same
  have digits : Nat.toDigits 10 x = Nat.toDigits 10 y := by
    rw [← takeWhile_digits x r left, ← takeWhile_digits y s right, same]
  have numbers := congrArg (Nat.ofDigitChars 10 · 0) digits
  simp only [Nat.ofDigitChars_ten_toDigits] at numbers
  subst numbers
  exact ⟨rfl, List.append_cancel_left same⟩

theorem toDigits_head (n : Nat) : ∃ c digits, Nat.toDigits 10 n = c :: digits ∧ c.isDigit = true := by
  cases written : Nat.toDigits 10 n with
  | nil => exact absurd written Nat.toDigits_ne_nil
  | cons c digits =>
    have member : c ∈ Nat.toDigits 10 n := by
      rw [written]
      exact List.mem_cons_self
    exact ⟨c, digits, rfl, Nat.isDigit_of_mem_toDigits (by decide) (by decide) member⟩

theorem toList_integer (n : Int) : (toString n).toList =
    if 0 ≤ n then Nat.toDigits 10 n.toNat else '-' :: Nat.toDigits 10 (-n).toNat := by
  rw [Int.toString_eq_repr, Int.repr_eq_if]
  split
  · exact Nat.toList_repr
  · rw [String.toList_append, Nat.toList_repr]
    rfl

theorem decodable_integer : Decodable (fun n : Int => (toString n).toList) NoDigit := by
  have unsigned : ∀ (n : Nat) (tail rest : List Char), Nat.toDigits 10 n ++ rest ≠ '-' :: tail := by
    intro n tail rest same
    obtain ⟨c, digits, written, digit⟩ := toDigits_head n
    rw [written, List.cons_append, List.cons.injEq] at same
    rw [same.1] at digit
    cases digit
  intro x y r s left right same
  simp only [toList_integer] at same
  split at same <;> split at same
  · obtain ⟨equal, rest⟩ := decodable_natural _ _ r s left right same
    exact ⟨by omega, rest⟩
  · exact absurd same (unsigned _ _ r)
  · exact absurd same.symm (unsigned _ _ s)
  · simp only [List.cons_append, List.cons.injEq, true_and] at same
    obtain ⟨equal, rest⟩ := decodable_natural _ _ r s left right same
    exact ⟨by omega, rest⟩

end SqlSelect.Text

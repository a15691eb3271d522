import SqlSelect.Proofs.Text.Decodable
import Mathlib.Data.List.Basic

namespace SqlSelect.Text

def Follows (words : List String) (rest : List Char) : Prop := rest = [] ∨ ∃ word ∈ words, word.toList <+: rest

def Apart (word : String) (words : List String) : Prop :=
  ∀ other ∈ words, ¬ other.toList <+: word.toList ∧ ¬ word.toList <+: other.toList

instance (word : String) (words : List String) : Decidable (Apart word words) :=
  inferInstanceAs (Decidable (∀ other ∈ words, _ ∧ _))

section

variable {words : List String} {word : String} {rest : List Char}

theorem follows_nil (words : List String) : Follows words [] := .inl rfl

theorem follows_append (member : word ∈ words) (rest : List Char) : Follows words (word.toList ++ rest) :=
  .inr ⟨word, member, List.prefix_append _ _⟩

theorem Follows.mono {others : List String} (follows : Follows words rest)
    (begun : ∀ word ∈ words, ∃ other ∈ others, other.toList <+: word.toList) : Follows others rest := by
  rcases follows with ended | ⟨word, member, start⟩
  · exact .inl ended
  · obtain ⟨other, among, shorter⟩ := begun word member
    exact .inr ⟨other, among, shorter.trans start⟩

theorem Follows.cons (follows : Follows words rest) (word : String) : Follows (word :: words) rest :=
  follows.mono fun other member => ⟨other, List.mem_cons_of_mem word member, List.prefix_refl _⟩

theorem Follows.not_prefix (follows : Follows words rest) (apart : Apart word words) (nonempty : word ≠ "") :
    ¬ word.toList <+: rest := by
  intro start
  rcases follows with rfl | ⟨other, member, first⟩
  · rw [List.prefix_nil, String.toList_eq_nil_iff] at start
    exact nonempty start
  · obtain ⟨longer, shorter⟩ := apart other member
    rcases List.prefix_or_prefix_of_prefix first start with begun | begun
    · exact longer begun
    · exact shorter begun

theorem Follows.head (follows : Follows words rest) (allowed : Char → Bool)
    (opens : ∀ word ∈ words, word.toList.head?.any allowed = true) (c : Char) (head : rest.head? = some c) :
    allowed c = true := by
  rcases follows with rfl | ⟨word, member, start⟩
  · cases head
  · have first := opens word member
    rw [Option.any_eq_true] at first
    obtain ⟨d, opening, fine⟩ := first
    obtain ⟨tail, rfl⟩ := start
    rw [List.head?_append, opening, Option.some_or, Option.some.injEq] at head
    rwa [← head]

theorem Follows.head_ne (follows : Follows words rest) (mark : Char)
    (opens : ∀ word ∈ words, word.toList.head?.any (· != mark) = true) : rest.head? ≠ some mark := by
  intro head
  have differ := follows.head (· != mark) opens mark head
  rw [bne_self_eq_false] at differ
  cases differ

theorem Follows.noDigit (follows : Follows words rest)
    (opens : ∀ word ∈ words, word.toList.head?.any (fun c => !c.isDigit) = true) : NoDigit rest := by
  intro c head
  have clear := follows.head (fun c => !c.isDigit) opens c head
  rwa [Bool.not_eq_true'] at clear

variable {α : Type} {write : α → List Char}

theorem Follows.optional (part : Option α) (follows : Follows words rest) :
    Follows (word :: words) (part.elim [] (fun x => word.toList ++ write x) ++ rest) := by
  cases part with
  | none => exact follows.cons word
  | some x =>
    rw [Option.elim_some, List.append_assoc]
    exact follows_append List.mem_cons_self _

theorem Follows.repeated (parts : List α) (follows : Follows words rest) :
    Follows (word :: words) (parts.flatMap (fun x => word.toList ++ write x) ++ rest) := by
  cases parts with
  | nil => exact follows.cons word
  | cons x parts =>
    rw [List.flatMap_cons, List.append_assoc, List.append_assoc]
    exact follows_append List.mem_cons_self _

theorem Decodable.optional {stop : List Char → Prop} (decodable : Decodable write stop)
    (weaker : ∀ r, Follows words r → stop r) (apart : Apart word words) (nonempty : word ≠ "") :
    Decodable (fun part : Option α => part.elim [] (fun x => word.toList ++ write x)) (Follows words) := by
  apply (decodable.lead word.toList).option weaker
  intro x r follows
  apply follows.not_prefix apart nonempty
  rw [List.append_assoc]
  exact List.prefix_append _ _

theorem Decodable.repeated (decodable : Decodable write (Follows (word :: words))) (apart : Apart word words)
    (nonempty : word ≠ "") :
    Decodable (fun parts : List α => parts.flatMap (fun x => word.toList ++ write x)) (Follows words) := by
  apply (decodable.lead word.toList).flatMap
  · exact fun r follows => follows.cons word
  · intro x r
    rw [List.append_assoc]
    exact follows_append List.mem_cons_self _
  · intro x r follows
    apply follows.not_prefix apart nonempty
    rw [List.append_assoc]
    exact List.prefix_append _ _

end

end SqlSelect.Text

import Mathlib.Data.List.Forall2
import SqlSelect.Operator
import SqlSelect.Proofs.Text.Case

namespace SqlSelect.Operator

inductive Spells : List String → Operator → Prop where
  | sql (operator : Operator) : Spells (Text.words operator.sql) operator
  | equal : Spells ["=="] eq
  | unequal : Spells ["<>"] neq

theorem spells_iff (words : List String) (operator : Operator) :
    Spells words operator ↔ words = Text.words operator.sql ∨ (words = ["=="] ∧ operator = eq) ∨
      (words = ["<>"] ∧ operator = neq) := by
  constructor
  · intro spells
    cases spells with
    | sql => exact .inl rfl
    | equal => exact .inr (.inl ⟨rfl, rfl⟩)
    | unequal => exact .inr (.inr ⟨rfl, rfl⟩)
  · rintro (rfl | ⟨rfl, rfl⟩ | ⟨rfl, rfl⟩)
    · exact .sql operator
    · exact .equal
    · exact .unequal

theorem words_sql (operator : Operator) : Text.words operator.sql = operator.spelling := by
  cases operator <;> decide

theorem ofWords?_iff_spells (words : List String) (operator : Operator) :
    ofWords? words = some operator ↔ Spells words operator := by
  rw [ofWords?_eq_some_iff, spells_iff, words_sql]

theorem Spells.unique (words : List String) (operator other : Operator) (spells : Spells words operator)
    (same : Spells words other) : operator = other := by
  rw [← ofWords?_iff_spells] at spells same
  exact Option.some.inj (spells.symm.trans same)

section

variable (text : String)

theorem parse_eq_ok_iff (operator : Operator) :
    parse text = .ok operator ↔ Spells ((Text.words text).map Text.upper) operator := by
  rw [← ofWords?_iff_spells, parse]
  cases ofWords? ((Text.words text).map Text.upper) with
  | none => simp
  | some found => simp

theorem parse_of_unspelled (unspelled : ∀ operator, ¬ Spells ((Text.words text).map Text.upper) operator) :
    parse text = .error (.invalidOperator text) := by
  rw [parse]
  cases read : ofWords? ((Text.words text).map Text.upper) with
  | none => rfl
  | some found => exact absurd ((ofWords?_iff_spells _ found).mp read) (unspelled found)

/-- Single blanks keep the words apart that they join, so the joined text may be compared in place of the words. -/
theorem joined_eq_iff (spelling : String) (spaced : " ".intercalate (Text.words spelling) = spelling) :
    Text.upper (" ".intercalate (Text.words text)) = spelling ↔
      (Text.words text).map Text.upper = Text.words spelling := by
  have solid := Text.isWord_of_mem_words text
  constructor
  · rintro rfl
    rw [Text.words_upper, Text.words_intercalate (Text.words text) solid]
  · intro same
    rw [Text.upper_intercalate, same, spaced]

theorem parse_eq_ok_iff_joined (operator : Operator) :
    let joined := Text.upper (" ".intercalate (Text.words text))
    parse text = .ok operator ↔
      joined = operator.sql ∨ (joined = "==" ∧ operator = eq) ∨ (joined = "<>" ∧ operator = neq) := by
  intro joined
  have spaced : " ".intercalate (Text.words operator.sql) = operator.sql := by
    rw [words_sql, ← sql_eq_intercalate]
  rw [parse_eq_ok_iff, spells_iff, joined_eq_iff text operator.sql spaced, joined_eq_iff text "==" (by rfl),
    joined_eq_iff text "<>" (by rfl)]
  exact Iff.rfl

theorem parse_of_same_words (other : String)
    (same : (Text.words text).map Text.upper = (Text.words other).map Text.upper) (operator : Operator) :
    parse text = .ok operator ↔ parse other = .ok operator := by
  rw [parse_eq_ok_iff, parse_eq_ok_iff, same]

end

theorem parse_of_sameLetters (operator : Operator) (written text : String)
    (same : Text.sameLetters written operator.sql = true) (spaced : Text.words text = Text.words written) :
    parse text = .ok operator := by
  have letters : Text.upper written = Text.upper operator.sql := beq_iff_eq.mp same
  have capital : Text.upper operator.sql = operator.sql := by cases operator <;> rfl
  rw [parse_eq_ok_iff, spaced, ← Text.words_upper, letters, capital]
  exact .sql operator

/-- A text is an operator exactly if its words, in upper case, spell it, and they spell one at most. The words may be
compared as a text in which single blanks join them. So texts whose words differ in letter case alone mean the same, and
the SQL text of an operator is read back in any letter case, with blanks around it, and with any blanks in place of the
one between its words. -/
theorem parse_spelled :
    (∀ text words, Text.Parts text.toList words →
        (∀ operator, parse text = .ok operator ↔ Spells (words.map Text.upper) operator) ∧
        ((∀ operator, ¬ Spells (words.map Text.upper) operator) → parse text = .error (.invalidOperator text))) ∧
      (∀ words operator other, Spells words operator → Spells words other → operator = other) ∧
      (∀ text operator,
        let joined := Text.upper (" ".intercalate (Text.words text))
        parse text = .ok operator ↔
          joined = operator.sql ∨ (joined = "==" ∧ operator = eq) ∨ (joined = "<>" ∧ operator = neq)) ∧
      (∀ text other, List.Forall₂ (fun word same => Text.sameLetters word same = true) (Text.words text)
          (Text.words other) → ∀ operator, parse text = .ok operator ↔ parse other = .ok operator) ∧
      ∀ operator written, Text.sameLetters written operator.sql = true → ∀ front tail, Text.IsBlank front →
        Text.IsBlank tail → parse (String.ofList (front ++ written.toList ++ tail)) = .ok operator ∧
          ∀ left right gap, written = left ++ " " ++ right → Text.IsBlank gap → gap ≠ [] →
            parse (String.ofList (front ++ (left.toList ++ gap ++ right.toList) ++ tail)) = .ok operator := by
  refine ⟨?_, Spells.unique, parse_eq_ok_iff_joined, ?_, ?_⟩
  · intro text words made
    obtain rfl := (Text.words_eq_iff text words).mpr made
    exact ⟨parse_eq_ok_iff text, parse_of_unspelled text⟩
  · intro text other alike
    apply parse_of_same_words
    rw [← List.forall₂_eq_eq_eq, List.forall₂_map_left_iff, List.forall₂_map_right_iff]
    exact alike.imp fun _ _ => beq_iff_eq.mp
  · intro operator written same front tail opened closed
    have inside (cs : List Char) : Text.words (String.ofList (front ++ cs ++ tail)) = Text.words (String.ofList cs) := by
      rw [Text.words, Text.words, String.toList_ofList, String.toList_ofList, Text.runs_around front cs tail opened closed]
    constructor
    · apply parse_of_sameLetters operator written _ same
      rw [inside, String.ofList_toList]
    · rintro left right gap rfl blank filled
      apply parse_of_sameLetters operator _ _ same
      rw [inside, Text.words_spaced, Text.words, String.toList_ofList, Text.runs_between _ gap _ blank filled,
        List.map_append, ← Text.words, ← Text.words]

/-- Blanks of several kinds stand around two words in mixed case, and a blank inside a sign makes two words of it. -/
theorem parse_spelled_spaced :
    let text := "\u3000nOt\t\u00a0LiKe\u2028"
    let parted := "< ="
    Text.sameLetters "nOt LiKe" notLike.sql = true ∧ parse text = .ok notLike ∧
      List.Forall₂ (fun word same => Text.sameLetters word same = true) (Text.words text) (Text.words "NOT LIKE") ∧
      (parse text = .ok notLike ↔ parse "NOT LIKE" = .ok notLike) ∧
      Text.Parts parted.toList ["<", "="] ∧ (∀ operator, ¬ Spells (["<", "="].map Text.upper) operator) ∧
      parse parted = .error (.invalidOperator parted) := by
  intro text parted
  obtain ⟨grammar, _, _, alike, written⟩ := parse_spelled
  have letters : Text.sameLetters "nOt LiKe" notLike.sql = true := by rfl
  have read : parse text = .ok notLike :=
    (written notLike "nOt LiKe" letters ['\u3000'] ['\u2028'] (by decide) (by decide)).2 "nOt" "LiKe" ['\t', '\u00a0']
      (by rfl) (by decide) (by decide)
  have same : List.Forall₂ (fun word same => Text.sameLetters word same = true) (Text.words text)
      (Text.words "NOT LIKE") := by
    rw [show Text.words text = ["nOt", "LiKe"] by decide, show Text.words "NOT LIKE" = ["NOT", "LIKE"] by decide]
    exact .cons (by rfl) (.cons (by rfl) .nil)
  have made : Text.Parts parted.toList ["<", "="] := (Text.words_eq_iff parted _).mp (by decide)
  have unspelled (operator : Operator) : ¬ Spells (["<", "="].map Text.upper) operator := by
    rw [← ofWords?_iff_spells]
    intro read
    cases read
  exact ⟨letters, read, same, alike text "NOT LIKE" same notLike, made, unspelled, (grammar parted _ made).2 unspelled⟩

end SqlSelect.Operator

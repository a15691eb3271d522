import SqlSelect.Table

namespace SqlSelect.Text

def IsWord (text : String) : Prop := text.toList ≠ [] ∧ ∀ c ∈ text.toList, isBlank c = false

theorem isWord_of_mem_words (text word : String) (member : word ∈ words text) : IsWord word := by
  obtain ⟨run, inside, rfl⟩ := List.mem_map.mp member
  rw [IsWord, String.toList_ofList]
  exact ⟨ne_nil_of_mem_runs text.toList run inside, not_blank_of_mem_runs text.toList run inside⟩

theorem runs_of_not_blank (cs : List Char) (filled : cs ≠ []) (solid : ∀ c ∈ cs, isBlank c = false) :
    runs cs = [cs] := by
  induction cs with
  | nil => exact absurd rfl filled
  | cons c cs ih =>
    have first : isBlank c = false := solid c (by simp)
    cases cs with
    | nil =>
      unfold runs extendRuns
      simp [runs, first]
    | cons d cs =>
      have later := ih (by simp) fun e member => solid e (List.mem_cons_of_mem _ member)
      have second : isBlank d = false := solid d (by simp)
      rw [runs, later]
      unfold extendRuns
      simp [first, second]

theorem words_of_isWord (text : String) (word : IsWord text) : words text = [text] := by
  rw [words, runs_of_not_blank text.toList word.1 word.2]
  simp

theorem extendRuns_blank (c d : Char) (cs : List Char) (later : List (List Char)) (blank : isBlank d = true) :
    extendRuns c (d :: cs) later = [c] :: later := by
  unfold extendRuns
  cases later with
  | nil => rfl
  | cons run later => simp only [List.head?_cons, blank, if_true]

theorem extendRuns_solid (c d : Char) (cs run : List Char) (later : List (List Char)) (solid : isBlank d = false) :
    extendRuns c (d :: cs) (run :: later) = (c :: run) :: later := by
  unfold extendRuns
  simp only [List.head?_cons, solid, Bool.false_eq_true, if_false]

theorem exists_runs_cons (c : Char) (cs : List Char) (solid : isBlank c = false) :
    ∃ run later, runs (c :: cs) = run :: later := by
  rw [runs, solid, if_neg Bool.false_ne_true]
  unfold extendRuns
  split
  · split
    · exact ⟨_, _, rfl⟩
    · exact ⟨_, _, rfl⟩
  · exact ⟨_, _, rfl⟩

/-- A blank ends the runs before it. -/
theorem runs_append_blank (left right : List Char) (mark : Char) (blank : isBlank mark = true) :
    runs (left ++ mark :: right) = runs left ++ runs right := by
  induction left with
  | nil => exact runs_blank_cons mark right blank
  | cons c left ih =>
    rw [List.cons_append, runs, runs, ih]
    split
    · rfl
    · cases left with
      | nil => exact extendRuns_blank c mark right (runs right) blank
      | cons d left =>
        rw [List.cons_append]
        cases second : isBlank d with
        | true => rw [extendRuns_blank c d _ _ second, extendRuns_blank c d _ _ second, List.cons_append]
        | false =>
          -- `c` goes into the run that starts with `d`, which is there on both sides
          obtain ⟨run, later, opened⟩ := exists_runs_cons d left second
          rw [opened, List.cons_append, extendRuns_solid c d _ _ _ second, extendRuns_solid c d _ _ _ second,
            List.cons_append]

theorem IsWord.append (left right : String) (word : IsWord left)
    (solid : ∀ c ∈ right.toList, isBlank c = false) : IsWord (left ++ right) := by
  rw [IsWord, String.toList_append]
  refine ⟨by simp [word.1], ?_⟩
  intro c member
  rcases List.mem_append.mp member with member | member
  · exact word.2 c member
  · exact solid c member

theorem not_blank_of_isDigit (c : Char) (digit : c.isDigit = true) : isBlank c = false := by
  simp only [Char.isDigit, Bool.and_eq_true, decide_eq_true_eq, ge_iff_le, UInt32.le_iff_toNat_le] at digit
  have low : 48 ≤ c.toNat := digit.1
  have high : c.toNat ≤ 57 := digit.2
  simp only [isBlank, Bool.or_eq_false_iff, Bool.and_eq_false_iff, decide_eq_false_iff_not, beq_eq_false_iff_ne]
  omega

theorem not_blank_of_mem_toString (n : Nat) (c : Char) (member : c ∈ (toString n).toList) :
    isBlank c = false := by
  rw [Nat.toString_eq_ofList_toDigits, String.toList_ofList] at member
  exact not_blank_of_isDigit c (Nat.isDigit_of_mem_toDigits (by decide) (by decide) member)

end SqlSelect.Text

namespace SqlSelect.TableRequest

theorem mem_of_ofWords? (words : List String) (parsed : TableRequest) (shape : ofWords? words = some parsed) :
    parsed.basename ∈ words ∧ ∀ aliasName, parsed.aliasName = some aliasName → aliasName ∈ words := by
  match words with
  | [] => cases shape
  | [name] =>
    rw [ofWords?] at shape
    split at shape <;> cases shape
    simp
  | [name, aliasName] =>
    rw [ofWords?] at shape
    split at shape <;> cases shape
    simp
  | [name, keyword, aliasName] =>
    rw [ofWords?] at shape
    split at shape <;> cases shape
    simp
  | _ :: _ :: _ :: _ :: _ => cases shape

theorem isWord_of_parse (request : String) (parsed : TableRequest) (readable : parse request = .ok parsed) :
    Text.IsWord parsed.basename ∧ ∀ aliasName, parsed.aliasName = some aliasName → Text.IsWord aliasName := by
  unfold parse at readable
  split at readable
  · rename_i found shape
    cases readable
    have members := mem_of_ofWords? (Text.words request) parsed shape
    refine ⟨Text.isWord_of_mem_words request _ members.1, ?_⟩
    intro aliasName asked
    exact Text.isWord_of_mem_words request _ (members.2 aliasName asked)
  · cases readable

theorem parse_of_isWord (name : String) (word : Text.IsWord name) (free : isAs name = false) :
    parse name = .ok ⟨name, none⟩ := by
  rw [parse, Text.words_of_isWord name word]
  simp [ofWords?, free]

end SqlSelect.TableRequest

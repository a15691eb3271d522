import SqlSelect.Proofs.Registry.Request
import SqlSelect.Proofs.Text.Case

namespace SqlSelect

namespace TableRequest

theorem isAs_iff (word : String) : isAs word = true ↔ word ∈ ["AS", "aS", "As", "as"] := by
  have letters : isAs word = true ↔ word.toList.map Char.toUpper = ['A', 'S'] := by
    rw [isAs, Text.sameLetters, beq_iff_eq, Text.upper, ← String.toList_inj, String.toList_ofList]
    rfl
  have first (c : Char) := Text.toUpper_eq_iff c 'A' 'a' (by decide) (by decide)
  have second (c : Char) := Text.toUpper_eq_iff c 'S' 's' (by decide) (by decide)
  simp only [letters, List.mem_cons, List.not_mem_nil, or_false, ← String.toList_inj]
  rcases word.toList with _ | ⟨c, _ | ⟨d, _ | ⟨e, rest⟩⟩⟩
  · simp
  · simp
  · simp [first, second, or_and_right, and_or_left, or_assoc]
  · simp

/-- The words are the same, but for the letter case of an `AS` between two names. -/
inductive SameRequest : List String → List String → Prop where
  | same (words : List String) : SameRequest words words
  | keyword (name first second aliasName : String) (between : isAs first = true) (other : isAs second = true) :
    SameRequest [name, first, aliasName] [name, second, aliasName]

theorem SameRequest.symm (words others : List String) (same : SameRequest words others) :
    SameRequest others words := by
  cases same with
  | same words => exact .same words
  | keyword name first second aliasName between other => exact .keyword name second first aliasName other between

theorem Spells.of_sameRequest (words others : List String) (parsed : TableRequest) (spells : Spells words parsed)
    (same : SameRequest words others) : Spells others parsed := by
  cases same with
  | same words => exact spells
  | keyword name first second aliasName between other =>
    cases spells with
    | keyword => exact .keyword name second aliasName other

theorem parse_of_parts (request : String) (words : List String) (made : Text.Parts request.toList words)
    (parsed : TableRequest) : parse request = .ok parsed ↔ Spells words parsed := by
  rw [parse_eq_ok_iff, (Text.words_eq_iff request words).mpr made]

theorem parse_of_not_spelled (request : String) (words : List String) (made : Text.Parts request.toList words)
    (unspelled : ∀ parsed, ¬ Spells words parsed) :
    parse request = .error (.invalidReference (.malformedTable request)) := by
  rw [parse, (Text.words_eq_iff request words).mpr made]
  cases shape : ofWords? words with
  | none => rfl
  | some parsed => exact absurd ((ofWords?_eq_some_iff words parsed).mp shape) (unspelled parsed)

theorem parse_of_sameRequest (request other : String) (words others : List String)
    (made : Text.Parts request.toList words) (built : Text.Parts other.toList others)
    (same : SameRequest words others) (parsed : TableRequest) :
    parse request = .ok parsed ↔ parse other = .ok parsed := by
  rw [parse_of_parts request words made, parse_of_parts other others built]
  constructor
  · exact fun spells => spells.of_sameRequest words others parsed same
  · exact fun spells => spells.of_sameRequest others words parsed same.symm

theorem parts_keyword (name keyword aliasName : String) (front between behind tail : List Char)
    (word : Text.IsWord name) (middle : Text.IsWord keyword) (label : Text.IsWord aliasName)
    (opened : Text.IsBlank front) (left : Text.IsBlank between) (right : Text.IsBlank behind)
    (closed : Text.IsBlank tail) (apart : between ≠ []) (parted : behind ≠ []) :
    Text.Parts (front ++ name.toList ++ (between ++ keyword.toList ++ (behind ++ aliasName.toList ++ tail)))
      [name, keyword, aliasName] := by
  refine .word front name _ _ opened word ?_ (.word between keyword _ _ left middle ?_
    (.word behind aliasName tail [] right label closed.ends (.blank tail closed)))
  · rw [List.append_assoc]
    exact left.ends_append between _ apart
  · rw [List.append_assoc]
    exact right.ends_append behind _ parted

theorem isWord_of_isAs (word : String) (between : isAs word = true) : Text.IsWord word := by
  have alone : ∀ known ∈ ["AS", "aS", "As", "as"], known ∈ Text.words known := by decide
  exact Text.isWord_of_mem_words word word (alone word ((isAs_iff word).mp between))

/-- Every text is made of words in one way, and only they count: it is a request exactly if they spell one, which it
then is. So requests with the same words mean the same, `AS` in front of an alias may be left out unless the alias is `AS`,
and what is written with it reads back. `AS` is a word of these two ASCII letters in either case. -/
theorem parse_grammar :
    (∀ request, ∃ words, Text.Parts request.toList words ∧
        (∀ others, Text.Parts request.toList others → others = words) ∧
        (∀ parsed, parse request = .ok parsed ↔ Spells words parsed) ∧
        ((∀ parsed, ¬ Spells words parsed) →
          parse request = .error (.invalidReference (.malformedTable request)))) ∧
      (∀ request other words others, Text.Parts request.toList words → Text.Parts other.toList others →
        SameRequest words others → ∀ parsed, parse request = .ok parsed ↔ parse other = .ok parsed) ∧
      (∀ request other name keyword aliasName, Text.Parts request.toList [name, aliasName] →
        Text.Parts other.toList [name, keyword, aliasName] → isAs keyword = true → isAs aliasName = false →
        parse request = .ok ⟨name, some aliasName⟩ ∧ parse other = .ok ⟨name, some aliasName⟩) ∧
      (∀ name keyword aliasName, Text.IsWord name → isAs keyword = true → Text.IsWord aliasName →
        ∀ front between behind tail, Text.IsBlank front → Text.IsBlank between → Text.IsBlank behind →
        Text.IsBlank tail → between ≠ [] → behind ≠ [] →
        parse (String.ofList (front ++ name.toList ++ (between ++ keyword.toList ++
          (behind ++ aliasName.toList ++ tail)))) = .ok ⟨name, some aliasName⟩) ∧
      ∀ word, isAs word = true ↔ word ∈ ["AS", "aS", "As", "as"] := by
  refine ⟨?_, parse_of_sameRequest, ?_, ?_, isAs_iff⟩
  · intro request
    obtain ⟨words, made⟩ := Text.exists_parts request.toList
    refine ⟨words, made, ?_, parse_of_parts request words made, parse_of_not_spelled request words made⟩
    intro others built
    exact built.unique request.toList others words made
  · intro request other name keyword aliasName made built between free
    rw [parse_of_parts request _ made, parse_of_parts other _ built]
    exact ⟨.behind name aliasName free, .keyword name keyword aliasName between⟩
  · intro name keyword aliasName word between label front left right tail opened blank white closed apart parted
    rw [parse_of_parts _ [name, keyword, aliasName]]
    · exact .keyword name keyword aliasName between
    · rw [String.toList_ofList]
      exact parts_keyword name keyword aliasName front left right tail word (isWord_of_isAs keyword between) label
        opened blank white closed apart parted

/-- A name and an alias that are both `AS`, between blanks of several kinds. -/
theorem parse_grammar_keywords :
    let request := "\u00a0AS\n\taS\u3000AS "
    let other := "AS AS AS"
    Text.Parts request.toList ["AS", "aS", "AS"] ∧ Text.Parts other.toList ["AS", "AS", "AS"] ∧
      (∀ parsed, parse request = .ok parsed ↔ parse other = .ok parsed) ∧
      parse request = .ok ⟨"AS", some "AS"⟩ := by
  intro request other
  have made : Text.Parts request.toList ["AS", "aS", "AS"] := (Text.words_eq_iff request _).mp (by decide)
  have built : Text.Parts other.toList ["AS", "AS", "AS"] := (Text.words_eq_iff other _).mp (by decide)
  have same : SameRequest ["AS", "aS", "AS"] ["AS", "AS", "AS"] := .keyword "AS" "aS" "AS" "AS" (by decide) (by decide)
  have word := isWord_of_isAs "AS" (by decide)
  obtain ⟨_, alike, _, readable, _⟩ := parse_grammar
  refine ⟨made, built, alike request other _ _ made built same, ?_⟩
  exact readable "AS" "aS" "AS" word (by decide) word ['\u00a0'] ['\n', '\t'] ['\u3000'] [' '] (by decide) (by decide)
    (by decide) (by decide) (by decide) (by decide)

end TableRequest
end SqlSelect

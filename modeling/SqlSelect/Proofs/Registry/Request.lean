import SqlSelect.Proofs.Text.Word

namespace SqlSelect.TableRequest

inductive Spells : List String → TableRequest → Prop where
  | bare (name : String) (free : isAs name = false) : Spells [name] ⟨name, none⟩
  | behind (name aliasName : String) (free : isAs aliasName = false) :
    Spells [name, aliasName] ⟨name, some aliasName⟩
  | keyword (name keyword aliasName : String) (between : isAs keyword = true) :
    Spells [name, keyword, aliasName] ⟨name, some aliasName⟩

theorem ofWords?_eq_some_iff (words : List String) (request : TableRequest) :
    ofWords? words = some request ↔ Spells words request := by
  constructor
  · intro shape
    match words with
    | [] => cases shape
    | [name] =>
      rw [ofWords?] at shape
      split at shape <;> cases shape
      exact .bare name (by simp_all)
    | [name, aliasName] =>
      rw [ofWords?] at shape
      split at shape <;> cases shape
      exact .behind name aliasName (by simp_all)
    | [name, keyword, aliasName] =>
      rw [ofWords?] at shape
      split at shape <;> cases shape
      exact .keyword name keyword aliasName (by assumption)
    | _ :: _ :: _ :: _ :: _ => cases shape
  · intro spells
    cases spells with
    | bare name free => simp [ofWords?, free]
    | behind name aliasName free => simp [ofWords?, free]
    | keyword name keyword aliasName between => simp [ofWords?, between]

theorem parse_eq_ok_iff (request : String) (parsed : TableRequest) :
    parse request = .ok parsed ↔ Spells (Text.words request) parsed := by
  rw [← ofWords?_eq_some_iff, parse]
  cases ofWords? (Text.words request) with
  | none => simp
  | some found => simp

theorem words_declared (name aliasName : String) (word : Text.IsWord name) (label : Text.IsWord aliasName) :
    Text.words (name ++ " AS " ++ aliasName) = [name, "AS", aliasName] := by
  have letters : (name ++ " AS " ++ aliasName).toList =
      name.toList ++ ' ' :: (['A', 'S'] ++ ' ' :: aliasName.toList) := by
    have middle : " AS ".toList = ' ' :: (['A', 'S'] ++ [' ']) := by rfl
    rw [String.toList_append, String.toList_append, middle]
    simp
  have blank : Text.isBlank ' ' = true := by rfl
  have keyword : Text.runs ['A', 'S'] = [['A', 'S']] := by rfl
  rw [Text.words, letters, Text.runs_append_blank _ _ _ blank, Text.runs_append_blank _ _ _ blank, keyword,
    Text.runs_of_not_blank _ word.1 word.2, Text.runs_of_not_blank _ label.1 label.2]
  simp only [List.singleton_append, List.map_cons, List.map_nil, String.ofList_toList]

theorem parse_declared (name aliasName : String) (word : Text.IsWord name) (label : Text.IsWord aliasName) :
    parse (name ++ " AS " ++ aliasName) = .ok ⟨name, some aliasName⟩ := by
  rw [parse_eq_ok_iff, words_declared name aliasName word label]
  exact .keyword name "AS" aliasName (by decide)

end SqlSelect.TableRequest

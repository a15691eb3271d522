import SqlSelect.Text.Quoted
import SqlSelect.Text.Ascii

namespace SqlSelect

inductive Token where
  | word (name : String)
  | quoted (name : String)
  | point
  | star
  | comma
  deriving DecidableEq, Repr

inductive SelectEntry where
  | all
  | allOf (aliasName : String)
  | reference (path : List String) (shown : Option String)
  deriving DecidableEq, Repr

namespace Token

def isGap (c : Char) : Bool :=
  let n := c.toNat
  (0x09 ≤ n && n ≤ 0x0D) || n == 0x20 || n == 0xA0 || (0x2000 ≤ n && n ≤ 0x200D) || n == 0x202F ||
    n == 0x205F || n == 0x2060 || n == 0x3000 || n == 0xFEFF

def startsWord (c : Char) : Bool := c.isAlpha || c == '_' || (0x80 ≤ c.toNat && !isGap c)

def isInWord (c : Char) : Bool := startsWord c || c.isDigit || c == '$'

theorem length_dropWhile_le (keep : Char → Bool) (cs : List Char) :
    (cs.dropWhile keep).length ≤ cs.length := by
  have := congrArg List.length (List.takeWhile_append_dropWhile (p := keep) (l := cs))
  simp only [List.length_append] at this
  omega

def read? (cs : List Char) : Option (List Token) :=
  match cs with
  | [] => some []
  | c :: cs =>
    if isGap c then read? cs
    else if c = '.' then (read? cs).map (point :: ·)
    else if c = '*' then (read? cs).map (star :: ·)
    else if c = ',' then (read? cs).map (comma :: ·)
    else if c = '"' then
      match found : Text.takeQuoted? '"' cs with
      | some (name, rest) =>
        have := Text.takeQuoted?_length _ _ _ _ found
        if name.isEmpty then none else (read? rest).map (quoted (String.ofList name) :: ·)
      | none => none
    else if startsWord c then
      have := length_dropWhile_le isInWord cs
      (read? (cs.dropWhile isInWord)).map (word (String.ofList (c :: cs.takeWhile isInWord)) :: ·)
    else none
termination_by cs.length
decreasing_by all_goals simp only [List.length_cons]; omega

def name? : Token → Option String
  | word name | quoted name => some name
  | _ => none

def path? : List Token → Option (List String × List Token)
  | first :: .point :: rest => do
    let name ← first.name?
    let (names, rest) ← path? rest
    some (name :: names, rest)
  | first :: rest => first.name?.map fun name => ([name], rest)
  | [] => none

def isAs : Token → Bool
  | word name => Text.sameLetters name "AS"
  | _ => false

def shown? : List Token → Option (Option String)
  | [] => some none
  | [token] => if token.isAs then none else token.name?.map some
  | [keyword, token] => if keyword.isAs then token.name?.map some else none
  | _ => none

end Token

def referencePath? (text : String) : Option (List String) := do
  match ← Token.path? (← Token.read? text.toList) with
  | (path, []) => some path
  | _ => none

namespace SelectEntry

def ofTokens? : List Token → Option SelectEntry
  | [.star] => some .all
  | [.word name, .point, .star] | [.quoted name, .point, .star] => some (.allOf name)
  | tokens => do
    let (path, rest) ← Token.path? tokens
    some (.reference path (← Token.shown? rest))

def betweenCommas : List Token → List (List Token)
  | [] => [[]]
  | [.comma] => []
  | .comma :: tokens => [] :: betweenCommas tokens
  | token :: tokens =>
    match betweenCommas tokens with
    | first :: rest => (token :: first) :: rest
    | [] => [[token]]

def readList? (text : String) : Option (List SelectEntry) := do
  match betweenCommas (← Token.read? text.toList) with
  | [] => none
  | parts => parts.mapM ofTokens?

end SelectEntry

namespace Token

end Token
end SqlSelect

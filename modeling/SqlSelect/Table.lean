import SqlSelect.Error
import SqlSelect.Text.Blank
import SqlSelect.Text.Ascii

namespace SqlSelect

/-- A table as a statement knows it. A root table is one that a select named; a declared alias is one that the
request asked for. -/
structure Table where
  basename : String
  aliasName : String
  isRoot : Bool
  isDeclared : Bool
  deriving DecidableEq, Repr, Inhabited

def Table.needsAlias (table : Table) : Bool := table.aliasName != table.basename

structure TableRequest where
  basename : String
  aliasName : Option String
  deriving DecidableEq, Repr

namespace TableRequest

def isAs (word : String) : Bool := Text.sameLetters word "AS"

def ofWords? : List String → Option TableRequest
  | [name] => if isAs name then none else some ⟨name, none⟩
  | [name, aliasName] => if isAs aliasName then none else some ⟨name, some aliasName⟩
  | [name, keyword, aliasName] => if isAs keyword then some ⟨name, some aliasName⟩ else none
  | _ => none

def parse (request : String) : Except QueryError TableRequest :=
  match ofWords? (Text.words request) with
  | some parsed => .ok parsed
  | none => .error (.invalidReference (.malformedTable request))

end TableRequest
end SqlSelect

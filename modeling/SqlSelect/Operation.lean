namespace SqlSelect

inductive Operation where
  | select (distinct : Bool)
  deriving DecidableEq, Repr

namespace Operation

def kind : Operation → String
  | select _ => "select"

def describe : Operation → String
  | select false => "select"
  | select true => "select distinct"

def keywords : Operation → String
  | select false => "SELECT"
  | select true => "SELECT DISTINCT"

end Operation
end SqlSelect

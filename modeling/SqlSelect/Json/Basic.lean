import SqlSelect.Decimal.Binary64

namespace SqlSelect

inductive Json where
  | null
  | bool (value : Bool)
  | integer (value : Int)
  | real (value : Binary64)
  | text (value : String)
  | array (items : List Json)
  | object (fields : List (String × Json))
  deriving Inhabited

namespace Json

def put (name : String) (value : Json) : List (String × Json) → List (String × Json)
  | [] => [(name, value)]
  | (other, kept) :: fields =>
    if name = other then (name, value) :: fields
    else if name < other then (name, value) :: (other, kept) :: fields
    else (other, kept) :: put name value fields

def field? (name : String) : List (String × Json) → Option Json
  | [] => none
  | (other, value) :: fields => if name = other then some value else field? name fields

@[simp] theorem field?_put_self (name : String) (value : Json) (fields : List (String × Json)) :
    field? name (put name value fields) = some value := by
  fun_induction put name value fields <;> simp_all [field?]

theorem field?_put_other (name other : String) (value : Json) (fields : List (String × Json))
    (differ : name ≠ other) : field? name (put other value fields) = field? name fields := by
  fun_induction put other value fields <;> simp_all [field?]

def ofFields (fields : List (String × Json)) : Json :=
  object (fields.foldl (fun object (name, value) => put name value object) [])

end Json
end SqlSelect

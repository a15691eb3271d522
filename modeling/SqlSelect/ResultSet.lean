import SqlSelect.Json.Basic

namespace SqlSelect

structure ResultSet where
  columns : List String
  rows : List (List (String × Json))

namespace ResultSet

def size (result : ResultSet) : Nat := result.rows.length

def isEmpty (result : ResultSet) : Bool := result.rows.isEmpty

end ResultSet
end SqlSelect

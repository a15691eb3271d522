import SqlSelect.Json.Printer
import SqlSelect.ResultSet
import SqlSelect.Error

namespace SqlSelect

inductive TimeUnit where
  | second | millisecond | microsecond | nanosecond
  deriving DecidableEq, Repr

def TimeUnit.name : TimeUnit → String
  | second => "Second"
  | millisecond => "Millisecond"
  | microsecond => "Microsecond"
  | nanosecond => "Nanosecond"

inductive CellType where
  | boolean
  | integer (signed : Bool) (bits : Nat)
  | hugeInteger
  | single
  | double
  | decimal (precision scale : Nat)
  | text
  | enumeration (members : List String)
  | blob
  | date
  | timestamp (unit : TimeUnit)
  | time
  | interval
  | list (item : CellType)
  | array (item : CellType) (size : Nat)
  | record (fields : List (String × CellType))
  | map (key value : CellType)
  | union (members : List (String × CellType))

/-- A value in a row. A date counts days, a timestamp its unit, since the start of 1970; a decimal is
`unscaled / 10 ^ scale`; the value of a union is a member under its tag. -/
inductive Cell where
  | null
  | boolean (value : Bool)
  | integer (value : Int)
  | hugeInteger (value : Int)
  | real (value : Binary64)
  | decimal (unscaled : Int) (scale : Nat)
  | text (value : String)
  | blob (bytes : List UInt8)
  | date (days : Int)
  | moment (unit : TimeUnit) (count : Int)
  | interval (months days nanos : Int)
  | list (items : List Cell)
  | record (fields : List (String × Cell))
  | map (entries : List (Cell × Cell))
  | member (tag : String) (inner : Cell)
  deriving Inhabited

namespace Cell

def decimalText (unscaled : Int) (scale : Nat) : String :=
  let sign := if unscaled < 0 then "-" else ""
  let digits := Nat.toDigits 10 unscaled.natAbs
  let padded := List.replicate (scale + 1 - digits.length) '0' ++ digits
  let whole := padded.length - scale
  if scale = 0 then sign ++ String.ofList digits
  else sign ++ String.ofList (padded.take whole) ++ "." ++ String.ofList (padded.drop whole)

def realJson (value : Binary64) : Json := if value.isFinite then .real value else .null

mutual
def toJson : Cell → Json
  | null => .null
  | boolean value => .bool value
  | integer value => .integer value
  | hugeInteger value => .text (toString value)
  | real value => realJson value
  | decimal unscaled scale => .text (decimalText unscaled scale)
  | text value => .text value
  | blob bytes => .text (String.ofList (Text.hexDigits bytes))
  | date days => .integer days
  | moment unit count => .text (toString count ++ " (" ++ unit.name ++ ")")
  | interval months days nanos =>
    .text (toString months ++ " months " ++ toString days ++ " days " ++ toString nanos ++ " nanos")
  | list items => .array (itemsJson items)
  | record fields => .ofFields (fieldsJson fields)
  | map entries => .array (entriesJson entries)
  | member _ inner => toJson inner

def itemsJson : List Cell → List Json
  | [] => []
  | item :: items => toJson item :: itemsJson items

def fieldsJson : List (String × Cell) → List (String × Json)
  | [] => []
  | (name, value) :: fields => (name, toJson value) :: fieldsJson fields

def entriesJson : List (Cell × Cell) → List Json
  | [] => []
  | (key, value) :: entries => .array [toJson key, toJson value] :: entriesJson entries
end

end Cell

namespace ResultSet

def rowOfCells (names : List String) (cells : List Cell) : List (String × Json) :=
  (names.zip cells).foldl (fun row (name, cell) => Json.put name cell.toJson row) []

def ofCells (names : List String) (rows : List (List Cell)) : ResultSet := ⟨names, rows.map (rowOfCells names)⟩

/-- The result of a statement over what `read` gives for the cells of its rows. The first cell that it does not give
decides the error. -/
def readOut (read : Cell → Except QueryError Cell) (names : List String) (rows : List (List Cell)) :
    Except QueryError ResultSet := do
  .ok (ofCells names (← rows.mapM fun cells => cells.mapM read))

end ResultSet
end SqlSelect

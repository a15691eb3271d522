import SqlSelect.Engine.Cell
import SqlSelect.Text.Ascii

namespace SqlSelect

namespace Text

def isWritable (text : String) : Bool := !text.toList.contains '\x00'

def areNames (names : List String) : Bool :=
  !names.isEmpty && names.all (fun name => !name.isEmpty && isWritable name) &&
    decide (names.map upper).Nodup

end Text

namespace CellType

def holds (signed : Bool) (bits : Nat) (n : Int) : Bool :=
  if signed then -(2 ^ (bits - 1)) ≤ n && n < 2 ^ (bits - 1) else 0 ≤ n && n < 2 ^ bits

mutual
def isValid : CellType → Bool
  | decimal precision scale => 1 ≤ precision && precision ≤ 38 && scale ≤ precision
  | enumeration members => !members.isEmpty && members.all Text.isWritable && decide members.Nodup
  | list item => isValid item
  | array item size => 1 ≤ size && size ≤ 100000 && isValid item
  | record fields => Text.areNames (fields.map (·.1)) && areValid fields
  | map key value => isValid key && isValid value
  | union members => Text.areNames (members.map (·.1)) && members.length ≤ 256 && areValid members
  | _ => true

def areValid : List (String × CellType) → Bool
  | [] => true
  | (_, type) :: rest => isValid type && areValid rest
end

mutual
def admits : CellType → Cell → Bool
  | _, .null => true
  | boolean, .boolean _ => true
  | integer signed bits, .integer n => holds signed bits n
  | hugeInteger, .hugeInteger n => holds true 128 n
  | single, .real _ | double, .real _ => true
  | decimal precision scale, .decimal unscaled scale' => scale' == scale && unscaled.natAbs < 10 ^ precision
  | text, .text value => Text.isWritable value
  | enumeration members, .text value => members.contains value
  | blob, .blob _ => true
  | date, .date _ => true
  | timestamp unit, .moment unit' _ => unit' == unit
  | time, .moment unit _ => unit == .microsecond
  | interval, .interval .. => true
  | list item, .list cells => cells.all fun cell => admits item cell
  | array item size, .list cells => cells.length == size && cells.all fun cell => admits item cell
  | record fields, .record cells => admitsFields fields cells
  | map key value, .map entries =>
    (entries.all fun (k, v) => !(k matches .null) && admits key k && admits value v) &&
      decide (entries.map fun (k, _) => k.toJson.print).Nodup
  | union members, .member tag inner => admitsMember members tag inner
  | _, _ => false

def admitsFields : List (String × CellType) → List (String × Cell) → Bool
  | [], [] => true
  | (_, type) :: fields, (_, cell) :: cells => admits type cell && admitsFields fields cells
  | _, _ => false

def admitsMember : List (String × CellType) → String → Cell → Bool
  | [], _, _ => false
  | (tag, type) :: members, tag', inner =>
    if tag = tag' then admits type inner else admitsMember members tag' inner
end

end CellType
end SqlSelect

import SqlSelect.Engine.Admission
import SqlSelect.Engine.Comparable
import SqlSelect.Engine.Reading
import SqlSelect.Text.Blank

namespace SqlSelect

namespace TimeUnit

def nanoseconds : TimeUnit → Int
  | second => 10 ^ 9
  | millisecond => 10 ^ 6
  | microsecond => 10 ^ 3
  | nanosecond => 1

end TimeUnit

structure Rounding where
  nearest : Nat → Nat → Binary64
  limit : Nat

namespace Rounding

def single : Rounding := ⟨Binary64.nearestSingle false, 2 ^ 24⟩

def double : Rounding := ⟨Binary64.nearest false, 2 ^ 53⟩

def quotient (rounding : Rounding) (num den : Nat) : Nat × Nat := (rounding.nearest num den).quotient

/-- A decimal in the format. Its digits are rounded before they are divided: at once if the format has them, else those
before and those behind the point apart. -/
def decimal (rounding : Rounding) (unscaled scale : Nat) : Nat × Nat :=
  let (power, unit) := rounding.quotient (10 ^ scale) 1
  let shifted := fun digits =>
    let (num, den) := rounding.quotient digits 1
    rounding.quotient (num * unit) (den * power)
  if unscaled ≤ rounding.limit ∨ scale = 0 then shifted unscaled
  else
    let (whole, den) := rounding.quotient (unscaled / 10 ^ scale) 1
    let (part, den') := shifted (unscaled % 10 ^ scale)
    rounding.quotient (whole * den' + part * den) (den * den')

def cast? (rounding : Rounding) : Cell → Option Comparable
  | .boolean value => some (.ofBool value)
  | .integer n | .hugeInteger n => some (.signed (n < 0) (rounding.quotient n.natAbs 1))
  | .decimal unscaled scale => some (.signed (unscaled < 0) (rounding.decimal unscaled.natAbs scale))
  | .real x => some (.ofReal x)
  | _ => none

end Rounding

namespace CellType

def isNumeric : CellType → Bool
  | integer .. | hugeInteger | single | double | decimal .. => true
  | _ => false

def shape? : CellType → Option (Nat × Nat)
  | integer signed bits => some (Decimal.width (if signed then 2 ^ (bits - 1) else 2 ^ bits - 1), 0)
  | hugeInteger => some (38, 0)
  | decimal precision scale => some (precision, scale)
  | _ => none

def joinNumbers : CellType → CellType → CellType
  | double, _ | _, double => double
  | single, _ | _, single => single
  | integer signed bits, integer signed' bits' =>
    if signed = signed' ∧ bits = bits' then integer signed bits else hugeInteger
  | hugeInteger, integer .. | integer .., hugeInteger | hugeInteger, hugeInteger => hugeInteger
  | a, b =>
    match a.shape?, b.shape? with
    | some (digits, scale), some (digits', scale') =>
      decimal (min 38 (max scale scale' + max (digits - scale) (digits' - scale'))) (max scale scale')
    | _, _ => a

/-- The type in which a column is compared with a literal that is no text, if there is one. Only equality is asked of a
number and a truth value, or of a text and a number. -/
def join? (equality : Bool) (column literal : CellType) : Option CellType :=
  if column.isNumeric && literal.isNumeric then some (joinNumbers column literal)
  else
    match column, literal with
    | boolean, boolean => some boolean
    | boolean, number | text, number => if equality && number.isNumeric then some number else none
    | number, boolean => if equality && number.isNumeric then some number else none
    | _, _ => none

def fit? (precision scale : Nat) (units : Int) : Option Comparable :=
  if units.natAbs < 10 ^ precision then some (.number 0 units (10 ^ scale)) else none

def hasValue (type : CellType) (value : Comparable) : Bool :=
  match type.shape?, value with
  | some (digits, scale), .number 0 num den =>
    let units := num * 10 ^ scale
    units % den == 0 && (units / den).natAbs < 10 ^ digits
  | _, _ => false

def read? (type : CellType) (value : String) : Option Comparable :=
  let cs := Text.strip value.toList
  match type with
  | text | enumeration _ => some (.text value)
  | boolean => (Text.truth? (String.ofList cs)).map .ofBool
  | integer signed bits => do
    let n ← (← WrittenNumber.read? cs).units? 0
    if holds signed bits n then some (.ofInt n) else none
  | hugeInteger => do
    let n ← (← WrittenNumber.read? cs).units? 0
    if holds true 128 n then some (.ofInt n) else none
  | decimal precision scale => do fit? precision scale (← (← WrittenNumber.read? cs).units? scale)
  | single => (Text.real? cs).map fun x => .ofReal x.toSingle
  | double => (Text.real? cs).map .ofReal
  | blob => (Text.bytes? value.toList).map .ofBytes
  | date =>
    match Text.dayFrom? cs with
    | some (day, []) => some (.ofInt day)
    | _ => none
  | timestamp unit => (Text.instant? cs).map fun instant => .ofInt (instant / unit.nanoseconds)
  | time => (Text.nanoseconds? cs).map fun time => .ofInt (time / TimeUnit.microsecond.nanoseconds)
  | _ => none

def cast? (type : CellType) (cell : Cell) : Option Comparable :=
  match type, cell with
  | _, .text value => type.read? value
  | boolean, .boolean value => some (.ofBool value)
  | integer .., .boolean value | hugeInteger, .boolean value => some (.ofBool value)
  | integer .., .integer n | hugeInteger, .integer n | hugeInteger, .hugeInteger n => some (.ofInt n)
  | decimal precision scale, .boolean value => fit? precision scale (value.toNat * 10 ^ scale)
  | decimal precision scale, .integer n | decimal precision scale, .hugeInteger n =>
    fit? precision scale (n * 10 ^ scale)
  | decimal precision scale, .decimal unscaled scale' =>
    fit? precision scale (unscaled * 10 ^ (scale - scale'))
  | single, cell => Rounding.single.cast? cell
  | double, cell => Rounding.double.cast? cell
  | blob, .blob bytes => some (.ofBytes bytes)
  | date, .date days => some (.ofInt days)
  | timestamp _, .moment _ count | time, .moment _ count => some (.ofInt count)
  | _, _ => none

def comparable (type : CellType) (cell : Cell) : Except QueryError (Option Comparable) :=
  match cell with
  | .null => .ok none
  | cell =>
    match type.cast? cell with
    | some value => .ok (some value)
    | none => .error (.database "the value cannot be read in the type of the comparison")

end CellType

namespace Json

def realLiteral (x : Binary64) : CellType × Cell :=
  let d := x.shortest realLayout.tie
  if realLayout.isPositional d.leading then
    let scale := max 1 (-d.exponent).toNat
    let unscaled : Int := d.digits * 10 ^ (d.exponent + scale).toNat
    (.decimal (scale + max 1 (d.leading + 1).toNat) scale,
      .decimal (if x.negative then -unscaled else unscaled) scale)
  else (.double, .real x)

def literal? : Json → Option (Option CellType × Cell)
  | null => some (none, .null)
  | text value => some (none, .text value)
  | bool value => some (some .boolean, .boolean value)
  | integer n =>
    if n.natAbs < 2 ^ 31 then some (some (.integer true 32), .integer n)
    else if n.natAbs < 2 ^ 63 then some (some (.integer true 64), .integer n)
    else some (some .hugeInteger, .hugeInteger n)
  | real x =>
    let (type, cell) := realLiteral x
    some (some type, cell)
  | _ => none

end Json

namespace CellType

def operands (type : CellType) (equality : Bool) (pieces : List Json) :
    Except QueryError (CellType × List (Option Comparable)) := do
  let literals ← pieces.mapM fun piece =>
    match piece.literal? with
    | some literal => .ok literal
    | none => .error (.database "the literal is not a single value")
  let common ← literals.foldlM
    (fun common (literal, _) =>
      match literal with
      | none => .ok common
      | some literal =>
        match join? equality common literal with
        | some joined => .ok joined
        | none => .error (.database "these types cannot be compared"))
    type
  .ok (common, ← literals.mapM fun (_, cell) => common.comparable cell)

end CellType
end SqlSelect

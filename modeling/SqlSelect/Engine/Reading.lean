import SqlSelect.Decimal.Shortest
import SqlSelect.Json.Reader
import SqlSelect.Calendar
import SqlSelect.Text.Ascii

namespace SqlSelect

structure WrittenNumber where
  negative : Bool
  digits : Nat
  exponent : Int
  deriving DecidableEq, Repr

namespace WrittenNumber

def read? (cs : List Char) : Option WrittenNumber := do
  let (negative, cs) := Text.sign cs
  let whole := cs.takeWhile Char.isDigit
  let (fraction, cs) ← Json.fractionDigits? (cs.dropWhile Char.isDigit)
  let (exponent, cs) ← Json.exponentPart? cs
  let places := fraction.getD []
  if cs.isEmpty && !(whole ++ places).isEmpty then
    some ⟨negative, Text.digitsValue 10 (whole ++ places), exponent.getD 0 - places.length⟩
  else none

def units? (number : WrittenNumber) (scale : Nat) : Option Int :=
  let places := number.exponent + scale
  let leading := places + Decimal.width number.digits
  let size :=
    if number.digits = 0 ∨ leading < 0 then some 0
    else if 80 < leading then none
    else some (Tie.away.round (number.digits * 10 ^ places.toNat) (10 ^ (-places).toNat))
  size.map fun size => if number.negative then -(size : Int) else size

def toReal (number : WrittenNumber) : Binary64 :=
  .ofDecimal number.negative number.digits number.exponent

end WrittenNumber

namespace Text

def truth? (text : String) : Option Bool :=
  if ["TRUE", "T", "YES", "Y", "1"].contains (upper text) then some true
  else if ["FALSE", "F", "NO", "N", "0"].contains (upper text) then some false
  else none

def real? (cs : List Char) : Option Binary64 :=
  let (negative, rest) := sign cs
  match upper (String.ofList rest) with
  | "NAN" => some .nan
  | "INF" | "INFINITY" => some (.infinity negative)
  | _ => (WrittenNumber.read? cs).map WrittenNumber.toReal

def bytes? : List Char → Option (List UInt8)
  | [] => some []
  | '\\' :: 'x' :: high :: low :: rest => do
    let byte ← hexBytes? [high, low]
    some (byte ++ (← bytes? rest))
  | '\\' :: _ => none
  | c :: rest => if c.toNat < 0x80 then (bytes? rest).map (UInt8.ofNat c.toNat :: ·) else none

def dayFrom? (cs : List Char) : Option (Int × List Char) := do
  let (year, cs) ← digitsWithin? 4 0 9999 cs
  let cs ← expect? '-' cs
  let (month, cs) ← digitsWithin? 2 1 12 cs
  let cs ← expect? '-' cs
  let (day, cs) ← digitsWithin? 2 1 (Calendar.daysIn year month) cs
  some (Calendar.dayNumber year month day, cs)

def nanoseconds? (cs : List Char) : Option Int := do
  let (hour, cs) ← digitsWithin? 2 0 23 cs
  let cs ← expect? ':' cs
  let (minute, cs) ← digitsWithin? 2 0 59 cs
  let cs ← expect? ':' cs
  let (second, cs) ← digitsWithin? 2 0 59 cs
  let (fraction, cs) ← Json.fractionDigits? cs
  let places := fraction.getD []
  if cs.isEmpty && places.length ≤ 9 then
    let part := digitsValue 10 places * 10 ^ (9 - places.length)
    some (((hour * 60 + minute) * 60 + second) * 10 ^ 9 + part : Nat)
  else none

def instant? (cs : List Char) : Option Int := do
  let (day, cs) ← dayFrom? cs
  let time ← match cs with
    | [] => some 0
    | c :: cs => if c == ' ' || c == 'T' then nanoseconds? cs else none
  some (day * (86400 * 10 ^ 9) + time)

end Text
end SqlSelect

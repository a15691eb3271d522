import SqlSelect.Decimal.Shortest

namespace SqlSelect

structure Layout where
  tie : Tie
  least : Option Int
  bound : Option Int
  deriving DecidableEq, Repr

namespace Layout

def isPositional (layout : Layout) (leading : Int) : Bool :=
  layout.least.all (· ≤ leading) && layout.bound.all (leading < ·)

def positional (d : Decimal) : String :=
  let text := Nat.toDigits 10 d.digits
  if 0 ≤ d.exponent then
    String.ofList (text ++ List.replicate d.exponent.toNat '0') ++ ".0"
  else
    let places := (-d.exponent).toNat
    let padded := List.replicate (places + 1 - text.length) '0' ++ text
    let whole := padded.length - places
    String.ofList (padded.take whole) ++ "." ++ String.ofList (padded.drop whole)

def scientific (d : Decimal) : String :=
  let text := Nat.toDigits 10 d.digits
  let fraction := if text.length ≤ 1 then [] else '.' :: text.drop 1
  let sign := if d.leading < 0 then "-" else "+"
  String.ofList (text.take 1 ++ fraction) ++ "e" ++ sign ++ toString d.leading.natAbs

def write (layout : Layout) (x : Binary64) : String :=
  let d := x.shortest layout.tie
  let sign := if x.negative then "-" else ""
  sign ++ if layout.isPositional d.leading then positional d else scientific d

end Layout
end SqlSelect

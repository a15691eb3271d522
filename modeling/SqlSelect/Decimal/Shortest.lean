import SqlSelect.Decimal.Binary64

namespace SqlSelect

inductive Tie where
  | even | away
  deriving DecidableEq, Repr

def Tie.round (tie : Tie) (num den : Nat) : Nat :=
  match tie with
  | even => Binary64.roundQuotient num den
  | away => (2 * num + den) / (2 * den)

structure Decimal where
  digits : Nat
  exponent : Int
  deriving DecidableEq, Repr

namespace Decimal

def width (n : Nat) : Nat := (Nat.toDigits 10 n).length

def dropZeros : Nat → Decimal → Decimal
  | 0, d => d
  | fuel + 1, d => if d.digits % 10 = 0 then dropZeros fuel ⟨d.digits / 10, d.exponent + 1⟩ else d

def leading (d : Decimal) : Int := d.exponent + (width d.digits : Int) - 1

end Decimal

structure Interval where
  low : Nat
  value : Nat
  high : Nat
  denominator : Nat
  closed : Bool

namespace Interval

/-- The neighbours of a double are one unit of its significand away, but the one below a power of two is half
as far, unless the exponent is the least. -/
def around (x : Binary64) : Interval :=
  let m := x.significand
  let e := x.exponent - 2
  let below := if m = 2 ^ 52 ∧ 1 < x.biased then 1 else 2
  let scale := 2 ^ e.toNat
  ⟨(4 * m - below) * scale, 4 * m * scale, (4 * m + 2) * scale, 2 ^ (-e).toNat, m % 2 == 0⟩

def contains (i : Interval) (n : Nat) (k : Int) : Bool :=
  let point := n * 10 ^ k.toNat * i.denominator
  let scale := 10 ^ (-k).toNat
  if i.closed then i.low * scale ≤ point && point ≤ i.high * scale
  else i.low * scale < point && point < i.high * scale

def leading (i : Interval) : Int :=
  if i.denominator ≤ i.value then (Decimal.width (i.value / i.denominator) : Int) - 1
  else - (Decimal.width ((i.denominator + i.value - 1) / i.value - 1) : Int)

def onGrid? (tie : Tie) (i : Interval) (k : Int) : Option Nat :=
  let num := i.value * 10 ^ (-k).toNat
  let den := i.denominator * 10 ^ k.toNat
  let floor := num / den
  match i.contains floor k, i.contains (floor + 1) k with
  | true, true => some (tie.round num den)
  | true, false => some floor
  | false, true => some (floor + 1)
  | false, false => none

def shortestFrom (tie : Tie) (i : Interval) : Nat → Int → Option Decimal
  | 0, _ => none
  | fuel + 1, k =>
    match i.onGrid? tie k with
    | some n => some ⟨n, k⟩
    | none => i.shortestFrom tie fuel (k - 1)

end Interval

/-- The shortest decimal that reads back as the absolute value of a finite double. Seventeen digits are
always enough. -/
def Binary64.shortest (tie : Tie) (x : Binary64) : Decimal :=
  if x.significand = 0 then ⟨0, 0⟩
  else
    let i := Interval.around x
    ((i.shortestFrom tie 17 i.leading).getD ⟨0, 0⟩).dropZeros 17

end SqlSelect

namespace SqlSelect

-- `^` on numbers is the power of the core library also where an algebraic one is in scope
@[default_instance high]
instance powNat : Pow Nat Nat := instPowNat

@[default_instance high]
instance powInt : Pow Int Nat := instPowNat

structure Binary64 where
  bits : UInt64
  deriving DecidableEq, Inhabited, Repr

namespace Binary64

def negative (x : Binary64) : Bool := 2 ^ 63 ≤ x.bits.toNat

def magnitude (x : Binary64) : Nat := x.bits.toNat % 2 ^ 63

def biased (x : Binary64) : Nat := x.magnitude / 2 ^ 52

def isFinite (x : Binary64) : Bool := x.biased < 2047

def isNaN (x : Binary64) : Bool := 2047 * 2 ^ 52 < x.magnitude

def significand (x : Binary64) : Nat :=
  if x.biased = 0 then x.magnitude else x.magnitude % 2 ^ 52 + 2 ^ 52

def exponent (x : Binary64) : Int := (max x.biased 1 : Nat) - 1075

def ofMagnitude (negative : Bool) (magnitude : Nat) : Binary64 :=
  ⟨UInt64.ofNat (magnitude + if negative then 2 ^ 63 else 0)⟩

def zero (negative : Bool) : Binary64 := ofMagnitude negative 0

def infinity (negative : Bool) : Binary64 := ofMagnitude negative (2047 * 2 ^ 52)

def nan : Binary64 := ofMagnitude false (2047 * 2 ^ 52 + 2 ^ 51)

def roundQuotient (num den : Nat) : Nat :=
  let floor := num / den
  let rest := 2 * (num % den)
  if rest < den || (rest == den && floor % 2 == 0) then floor else floor + 1

def floorLog (num den : Nat) : Int :=
  let e := (num.log2 : Int) - den.log2
  if den * 2 ^ e.toNat ≤ num * 2 ^ (-e).toNat then e else e - 1

structure Format where
  precision : Nat
  least : Int
  bound : Int

def double : Format := ⟨53, -1074, 1024⟩

def single : Format := ⟨24, -149, 128⟩

def Format.round (format : Format) (num den : Nat) : Nat × Int :=
  let e := max (floorLog num den - (format.precision - 1 : Nat)) format.least
  (roundQuotient (num * 2 ^ (-e).toNat) (den * 2 ^ e.toNat), e)

def nearest (negative : Bool) (num den : Nat) : Binary64 :=
  if num = 0 ∨ den = 0 then zero negative
  else
    let (significand, e) := double.round num den
    let magnitude := significand + (e + 1074).toNat * 2 ^ 52
    ofMagnitude negative (min magnitude (2047 * 2 ^ 52))

/-- The double nearest to `± digits * 10 ^ exponent`. A power of ten is expanded only where the result can be
finite and not zero, since `8 ^ n ≤ 10 ^ n`. -/
def ofDecimal (negative : Bool) (digits : Nat) (exponent : Int) : Binary64 :=
  let bits : Int := digits.log2
  if digits = 0 then zero negative
  else if 0 ≤ exponent ∧ 1024 ≤ bits + 3 * exponent then infinity negative
  else if exponent < 0 ∧ bits + 1 + 3 * exponent < -1100 then zero negative
  else nearest negative (digits * 10 ^ exponent.toNat) (10 ^ (-exponent).toNat)

def quotient (x : Binary64) : Nat × Nat :=
  (x.significand * 2 ^ x.exponent.toNat, 2 ^ (-x.exponent).toNat)

def nearestSingle (negative : Bool) (num den : Nat) : Binary64 :=
  if num = 0 ∨ den = 0 then zero negative
  else
    let (significand, e) := single.round num den
    if single.bound ≤ (significand.log2 : Int) + e then infinity negative
    else nearest negative (significand * 2 ^ e.toNat) (2 ^ (-e).toNat)

def toSingle (x : Binary64) : Binary64 :=
  if x.isFinite then nearestSingle x.negative x.quotient.1 x.quotient.2 else x

end Binary64
end SqlSelect

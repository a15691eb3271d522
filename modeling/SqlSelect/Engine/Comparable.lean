import SqlSelect.Decimal.Binary64

namespace SqlSelect

/-- Numbers as quotients, with a rank of -1 or 1 for the infinities and 2 for NaN; and texts. -/
inductive Comparable where
  | number (rank : Int) (num : Int) (den : Nat)
  | text (value : String)
  deriving DecidableEq, Repr

namespace Comparable

def signed (negative : Bool) (quotient : Nat × Nat) : Comparable :=
  number 0 (if negative then -(quotient.1 : Int) else quotient.1) quotient.2

def ofReal (x : Binary64) : Comparable :=
  if x.isNaN then number 2 0 1
  else if !x.isFinite then number (if x.negative then -1 else 1) 0 1
  else signed x.negative x.quotient

def ofInt (n : Int) : Comparable := number 0 n 1

def ofBool (value : Bool) : Comparable := ofInt value.toNat

def ofBytes (bytes : List UInt8) : Comparable :=
  text (String.ofList (bytes.map fun byte => Char.ofNat byte.toNat))

def order? : Comparable → Comparable → Option Ordering
  | number rank num den, number rank' num' den' =>
    some (compare rank rank' |>.then (compare (num * den') (num' * den)))
  | text a, text b => some (if a = b then .eq else if a < b then .lt else .gt)
  | _, _ => none

def isTrue : Comparable → Bool
  | number rank num _ => rank != 0 || num != 0
  | text _ => true

end Comparable
end SqlSelect

import SqlSelect.Toml.Basic
import SqlSelect.Toml.Line
import SqlSelect.Text.Digits

namespace SqlSelect.Toml

def digitRun? (isDigit : Char → Bool) : Scan (List Char)
  | [] => none
  | c :: cs =>
    if !isDigit c then none
    else if cs.head?.any isDigit then
      (digitRun? isDigit cs).map fun (digits, rest) => (c :: digits, rest)
    else
      match cs with
      | '_' :: rest => (digitRun? isDigit rest).map fun (digits, rest) => (c :: digits, rest)
      | rest => some ([c], rest)

def wholeRun? : Scan (List Char)
  | '0' :: cs => some (['0'], cs)
  | cs => digitRun? Char.isDigit cs

def fitInteger? (n : Int) : Option Toml :=
  if -(2 ^ 63) ≤ n ∧ n < 2 ^ 63 then some (integer n) else none

def isDigitOf (base : Nat) (c : Char) : Bool := (Text.digitValue? c).any (· < base)

def based? (base : Nat) (cs : List Char) : Option (Toml × List Char) := do
  let (digits, rest) ← digitRun? (isDigitOf base) cs
  let value ← fitInteger? (Text.digitsValue base digits)
  some (value, rest)

def fraction? : Scan (Option (List Char))
  | '.' :: cs => (digitRun? Char.isDigit cs).map fun (digits, rest) => (some digits, rest)
  | cs => some (none, cs)

def exponent? : Scan (Option Int)
  | [] => some (none, [])
  | c :: cs =>
    if c == 'e' || c == 'E' then
      let (negative, cs) := Text.sign cs
      (digitRun? Char.isDigit cs).map fun (digits, rest) =>
        let size : Int := Text.digitsValue 10 digits
        (some (if negative then -size else size), rest)
    else some (none, c :: cs)

/-- An integer or a real in decimal digits. A real above all doubles is refused, one below all is infinite. -/
def decimal? (cs : List Char) : Option (Toml × List Char) := do
  let (negative, cs) := Text.sign cs
  let (whole, cs) ← wholeRun? cs
  let (fraction, cs) ← fraction? cs
  let (exponent, cs) ← exponent? cs
  match fraction, exponent with
  | none, none =>
    let size : Int := Text.digitsValue 10 whole
    let value ← fitInteger? (if negative then -size else size)
    some (value, cs)
  | _, _ =>
    let places := fraction.getD []
    let value :=
      Binary64.ofDecimal negative (Text.digitsValue 10 (whole ++ places)) (exponent.getD 0 - places.length)
    if value = Binary64.infinity false then none else some (real value, cs)

def special? (cs : List Char) : Option (Toml × List Char) :=
  match Text.sign cs with
  | (negative, 'i' :: 'n' :: 'f' :: rest) => some (real (Binary64.infinity negative), rest)
  | (_, 'n' :: 'a' :: 'n' :: rest) => some (real Binary64.nan, rest)
  | _ => none

def number? : Scan Toml
  | '0' :: 'x' :: cs => based? 16 cs
  | '0' :: 'o' :: cs => based? 8 cs
  | '0' :: 'b' :: cs => based? 2 cs
  | cs => (special? cs).or (decimal? cs)

end SqlSelect.Toml

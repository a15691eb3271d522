import SqlSelect.Json.Basic
import SqlSelect.Text.Digits

namespace SqlSelect.Json

def isSpace (c : Char) : Bool := c == ' ' || c == '\t' || c == '\n' || c == '\r'

def skipSpace (cs : List Char) : List Char := cs.dropWhile isSpace

def hexUnit? : List Char → Option (Nat × List Char)
  | a :: b :: c :: d :: rest => do
    let a ← Text.digitValue? a
    let b ← Text.digitValue? b
    let c ← Text.digitValue? c
    let d ← Text.digitValue? d
    some (a * 4096 + b * 256 + c * 16 + d, rest)
  | _ => none

def unicodeEscape? (cs : List Char) : Option (Char × List Char) := do
  let (unit, rest) ← hexUnit? cs
  if 0xD800 ≤ unit ∧ unit < 0xDC00 then
    match rest with
    | '\\' :: 'u' :: rest =>
      let (low, rest) ← hexUnit? rest
      if 0xDC00 ≤ low ∧ low < 0xE000 then
        some (Char.ofNat (0x10000 + (unit - 0xD800) * 0x400 + (low - 0xDC00)), rest)
      else none
    | _ => none
  else if 0xDC00 ≤ unit ∧ unit < 0xE000 then none
  else some (Char.ofNat unit, rest)

def letterEscape? : Char → Option Char
  | '"' => some '"'
  | '\\' => some '\\'
  | '/' => some '/'
  | 'b' => some '\x08'
  | 'f' => some '\x0c'
  | 'n' => some '\n'
  | 'r' => some '\r'
  | 't' => some '\t'
  | _ => none

def stringFrom? : Nat → List Char → List Char → Option (String × List Char)
  | 0, _, _ => none
  | fuel + 1, read, cs =>
    match cs with
    | [] => none
    | '"' :: rest => some (String.ofList read.reverse, rest)
    | '\\' :: 'u' :: rest => do
      let (c, rest) ← unicodeEscape? rest
      stringFrom? fuel (c :: read) rest
    | '\\' :: e :: rest => do
      let c ← letterEscape? e
      stringFrom? fuel (c :: read) rest
    | c :: rest => if c.toNat < 0x20 || c == '\\' then none else stringFrom? fuel (c :: read) rest

def wholeDigits? (cs : List Char) : Option (List Char × List Char) :=
  let digits := cs.takeWhile Char.isDigit
  let rest := cs.dropWhile Char.isDigit
  match digits with
  | [] => none
  | '0' :: _ :: _ => none
  | _ => some (digits, rest)

def fractionDigits? : List Char → Option (Option (List Char) × List Char)
  | '.' :: cs =>
    match cs.takeWhile Char.isDigit with
    | [] => none
    | digits => some (some digits, cs.dropWhile Char.isDigit)
  | cs => some (none, cs)

def exponentPart? : List Char → Option (Option Int × List Char)
  | c :: cs =>
    if c == 'e' || c == 'E' then
      let (negative, cs) := Text.sign cs
      match cs.takeWhile Char.isDigit with
      | [] => none
      | digits =>
        let size : Int := Text.digitsValue 10 digits
        some (some (if negative then -size else size), cs.dropWhile Char.isDigit)
    else some (none, c :: cs)
  | [] => some (none, [])

def finite? (x : Binary64) : Option Json := if x.isFinite then some (real x) else none

def number? (negative : Bool) (whole : List Char) (fraction : Option (List Char))
    (exponent : Option Int) : Option Json :=
  match fraction, exponent with
  | none, none =>
    let size := Text.digitsValue 10 whole
    if negative ∧ size = 0 then some (real (Binary64.zero true))
    else if negative ∧ size ≤ 2 ^ 63 then some (integer (-(size : Int)))
    else if ¬negative ∧ size < 2 ^ 64 then some (integer size)
    else finite? (Binary64.ofDecimal negative size 0)
  | _, _ =>
    let places := fraction.getD []
    let digits := Text.digitsValue 10 (whole ++ places)
    finite? (Binary64.ofDecimal negative digits (exponent.getD 0 - places.length))

def numberFrom? (cs : List Char) : Option (Json × List Char) := do
  let (negative, cs) := match cs with
    | '-' :: cs => (true, cs)
    | cs => (false, cs)
  let (whole, cs) ← wholeDigits? cs
  let (fraction, cs) ← fractionDigits? cs
  let (exponent, cs) ← exponentPart? cs
  let value ← number? negative whole fraction exponent
  some (value, cs)

mutual
def valueFrom? : Nat → List Char → Option (Json × List Char)
  | 0, _ => none
  | fuel + 1, cs =>
    match skipSpace cs with
    | 'n' :: 'u' :: 'l' :: 'l' :: rest => some (null, rest)
    | 't' :: 'r' :: 'u' :: 'e' :: rest => some (bool true, rest)
    | 'f' :: 'a' :: 'l' :: 's' :: 'e' :: rest => some (bool false, rest)
    | '"' :: rest => (stringFrom? (rest.length + 1) [] rest).map fun (s, rest) => (text s, rest)
    | '[' :: rest =>
      match skipSpace rest with
      | ']' :: rest => some (array [], rest)
      | rest => itemsFrom? fuel [] rest
    | '\x7b' :: rest =>
      match skipSpace rest with
      | '\x7d' :: rest => some (object [], rest)
      | rest => fieldsFrom? fuel [] rest
    | rest => numberFrom? rest

def itemsFrom? : Nat → List Json → List Char → Option (Json × List Char)
  | 0, _, _ => none
  | fuel + 1, read, cs =>
    match valueFrom? fuel cs with
    | none => none
    | some (item, rest) =>
      match skipSpace rest with
      | ',' :: rest => itemsFrom? fuel (item :: read) rest
      | ']' :: rest => some (array (item :: read).reverse, rest)
      | _ => none

def fieldsFrom? : Nat → List (String × Json) → List Char → Option (Json × List Char)
  | 0, _, _ => none
  | fuel + 1, read, cs =>
    match skipSpace cs with
    | '"' :: rest =>
      match stringFrom? (rest.length + 1) [] rest with
      | none => none
      | some (name, rest) =>
        match skipSpace rest with
        | ':' :: rest =>
          match valueFrom? fuel rest with
          | none => none
          | some (value, rest) =>
            match skipSpace rest with
            | ',' :: rest => fieldsFrom? fuel (put name value read) rest
            | '\x7d' :: rest => some (object (put name value read), rest)
            | _ => none
        | _ => none
    | _ => none
end

def read? (source : String) : Option Json :=
  let cs := source.toList
  match valueFrom? (cs.length + 1) cs with
  | some (value, rest) => if (skipSpace rest).isEmpty then some value else none
  | none => none

end SqlSelect.Json

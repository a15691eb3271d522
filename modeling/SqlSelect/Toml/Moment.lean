import SqlSelect.Toml.Line
import SqlSelect.Toml.Number
import SqlSelect.Calendar

namespace SqlSelect.Toml

def date? (cs : List Char) : Option (List Char) := do
  let (year, cs) ← Text.digitsWithin? 4 0 9999 cs
  let cs ← Text.expect? '-' cs
  let (month, cs) ← Text.digitsWithin? 2 1 12 cs
  let cs ← Text.expect? '-' cs
  let (_, cs) ← Text.digitsWithin? 2 1 (Calendar.daysIn year month) cs
  some cs

def time? (cs : List Char) : Option (List Char) := do
  let (_, cs) ← Text.digitsWithin? 2 0 23 cs
  let cs ← Text.expect? ':' cs
  let (_, cs) ← Text.digitsWithin? 2 0 59 cs
  let cs ← Text.expect? ':' cs
  let (_, cs) ← Text.digitsWithin? 2 0 60 cs
  match cs with
  | '.' :: rest => if (rest.takeWhile Char.isDigit).isEmpty then some cs else some (rest.dropWhile Char.isDigit)
  | _ => some cs

def offset? (cs : List Char) : Option (List Char) :=
  match cs with
  | [] => some []
  | c :: rest =>
    if c == 'Z' || c == 'z' then some rest
    else if c == '+' || c == '-' then do
      let (_, rest) ← Text.digitsWithin? 2 0 23 rest
      let rest ← Text.expect? ':' rest
      let (_, rest) ← Text.digitsWithin? 2 0 59 rest
      some rest
    else some cs

def timeOfDate? (cs : List Char) : Option (List Char) :=
  match cs with
  | [] => some []
  | c :: rest =>
    if c == 'T' || c == 't' || c == ' ' then
      match time? rest with
      | some rest => offset? rest
      | none => some cs
    else some cs

def moment? (cs : List Char) : Option (List Char) :=
  match date? cs with
  | some rest => timeOfDate? rest
  | none => time? cs

end SqlSelect.Toml

import SqlSelect.Toml.Text
import SqlSelect.Toml.Number
import SqlSelect.Toml.Moment

namespace SqlSelect.Toml

def isBare (c : Char) : Bool := c.isAlphanum || c == '_' || c == '-'

def simpleKey? (cs : List Char) : Option (String × List Char) :=
  match cs with
  | '"' :: _ | '\x27' :: _ => lineText? cs
  | _ =>
    match cs.takeWhile isBare with
    | [] => none
    | key => some (String.ofList key, cs.dropWhile isBare)

/-- The most arrays and inline tables that may stand in each other, and the most parts of a key. -/
def depthLimit : Nat := 79

def keyPathFrom? : Nat → Scan (List String × String)
  | room, cs => do
    let (key, rest) ← simpleKey? (skipSpace cs)
    match room, skipSpace rest with
    | room + 1, '.' :: rest => do
      let ((path, last), rest) ← keyPathFrom? room rest
      some ((key :: path, last), rest)
    | 0, '.' :: _ => none
    | _, rest => some (([], key), rest)

def keyPath? : Scan (List String × String) := keyPathFrom? (depthLimit - 1)

def assignee? (cs : List Char) : Option ((List String × String) × List Char) := do
  let (key, rest) ← keyPath? cs
  match rest with
  | '=' :: rest => some (key, skipSpace rest)
  | _ => none

mutual
def valueWithin? (room : Nat) : Nat → Scan Toml
  | 0, _ => none
  | fuel + 1, cs =>
    match room, cs with
    | 0, '[' :: _ | 0, '\x7b' :: _ => none
    | room + 1, '[' :: rest => items? room fuel [] rest
    | room + 1, '\x7b' :: rest =>
      match skipSpace rest with
      | '\x7d' :: rest => some (table .inline [], rest)
      | rest => pairs? room fuel [] rest
    | _, 't' :: 'r' :: 'u' :: 'e' :: rest => some (boolean true, rest)
    | _, 'f' :: 'a' :: 'l' :: 's' :: 'e' :: rest => some (boolean false, rest)
    | _, '"' :: _ | _, '\x27' :: _ => (text? cs).map fun (value, rest) => (text value, rest)
    | _, cs =>
      match moment? cs with
      | some rest => some (moment, rest)
      | none => number? cs

def items? (room : Nat) : Nat → List Toml → Scan Toml
  | 0, _, _ => none
  | fuel + 1, read, cs =>
    match skipLines cs.length cs with
    | ']' :: rest => some (array read.reverse, rest)
    | cs =>
      match valueWithin? room fuel cs with
      | none => none
      | some (item, rest) =>
        match skipLines rest.length rest with
        | ',' :: rest => items? room fuel (item :: read) rest
        | ']' :: rest => some (array (item :: read).reverse, rest)
        | _ => none

def pairs? (room : Nat) : Nat → Entries → Scan Toml
  | 0, _, _ => none
  | fuel + 1, read, cs =>
    match assignee? cs with
    | none => none
    | some ((path, key), rest) =>
      match valueWithin? room fuel rest with
      | none => none
      | some (value, rest) =>
        match assign? path key value read with
        | none => none
        | some read =>
          match skipSpace rest with
          | ',' :: rest => pairs? room fuel read rest
          | '\x7d' :: rest => some (table .inline read, rest)
          | _ => none
end

def value? (cs : List Char) : Option (Toml × List Char) := valueWithin? depthLimit (cs.length + 1) cs

inductive Line where
  | assignment (assignment : Assignment)
  | header (path : List String) (key : String)
  | arrayHeader (path : List String) (key : String)

def headerLine? (close : List Char) (cs : List Char) : Option ((List String × String) × List Char) := do
  let (key, rest) ← keyPath? cs
  if close.isPrefixOf rest then
    let rest ← lineEnd? (rest.drop close.length)
    some (key, rest)
  else none

def line? (cs : List Char) : Option (Line × List Char) :=
  match cs with
  | '[' :: '[' :: rest => (headerLine? [']', ']'] rest).map fun ((path, key), rest) => (.arrayHeader path key, rest)
  | '[' :: rest => (headerLine? [']'] rest).map fun ((path, key), rest) => (.header path key, rest)
  | _ => do
    let ((path, key), rest) ← assignee? cs
    let (value, rest) ← value? rest
    let rest ← lineEnd? rest
    some (.assignment (path, key, value), rest)

def lines? : Nat → List Char → Option (List Line)
  | 0, _ => none
  | fuel + 1, cs =>
    match skipLines cs.length cs with
    | [] => some []
    | cs => do
      let (line, rest) ← line? cs
      let lines ← lines? fuel rest
      some (line :: lines)

def leading : List Line → List Assignment × List Line
  | .assignment assignment :: lines =>
    let (assignments, rest) := leading lines
    (assignment :: assignments, rest)
  | lines => ([], lines)

def sections? : Nat → Entries → List Line → Option Entries
  | _, entries, [] => some entries
  | 0, _, _ => none
  | fuel + 1, entries, line :: lines =>
    let (assignments, rest) := leading lines
    match line with
    | .header path key => (defineTable? path key assignments entries).bind (sections? fuel · rest)
    | .arrayHeader path key => (appendTable? path key assignments entries).bind (sections? fuel · rest)
    | .assignment _ => none

def ofLines? (lines : List Line) : Option Entries := do
  let (assignments, rest) := leading lines
  let entries ← assignAll? [] assignments
  sections? rest.length entries rest

def read? (source : String) : Option Entries :=
  let cs := match source.toList with
    | '\uFEFF' :: cs => cs
    | cs => cs
  (lines? (cs.length + 1) cs).bind ofLines?

end SqlSelect.Toml

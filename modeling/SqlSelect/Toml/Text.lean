import SqlSelect.Toml.Line
import SqlSelect.Text.Digits

namespace SqlSelect.Toml

def scalar? (digits : List Char) : Option Char :=
  let code := Text.digitsValue 16 digits
  if digits.all (fun c => (Text.digitValue? c).isSome) ∧ code.isValidChar then some (Char.ofNat code) else none

def letterEscape? : Char → Option Char
  | 'b' => some '\x08'
  | 't' => some '\t'
  | 'n' => some '\n'
  | 'f' => some '\x0c'
  | 'r' => some '\r'
  | '"' => some '"'
  | '\\' => some '\\'
  | _ => none

def escape? : Scan Char
  | 'u' :: cs => if cs.length < 4 then none else (scalar? (cs.take 4)).map (·, cs.drop 4)
  | 'U' :: cs => if cs.length < 8 then none else (scalar? (cs.take 8)).map (·, cs.drop 8)
  | c :: cs => (letterEscape? c).map (·, cs)
  | [] => none

def basicFrom? : Nat → List Char → Scan String
  | 0, _, _ => none
  | fuel + 1, read, cs =>
    match cs with
    | [] => none
    | '"' :: rest => some (String.ofList read.reverse, rest)
    | '\\' :: rest => do
      let (c, rest) ← escape? rest
      basicFrom? fuel (c :: read) rest
    | c :: rest => if isPrinting c then basicFrom? fuel (c :: read) rest else none

def literal? (cs : List Char) : Option (String × List Char) :=
  let isBody := fun c => isPrinting c && c != '\x27'
  match cs.dropWhile isBody with
  | '\x27' :: rest => some (String.ofList (cs.takeWhile isBody), rest)
  | _ => none

def skipBlankLines : Nat → List Char → List Char
  | 0, cs => cs
  | fuel + 1, cs =>
    let cs := skipSpace cs
    match newline? cs with
    | some rest => skipBlankLines fuel rest
    | none => cs

def continuation? (cs : List Char) : Option (List Char) :=
  (newline? (skipSpace cs)).map fun rest => skipBlankLines rest.length rest

def multilineFrom? (quote : Char) (escapes : Bool) : Nat → List Char → Scan String
  | 0, _, _ => none
  | fuel + 1, read, cs =>
    match cs with
    | [] => none
    | c :: rest =>
      if c = quote then
        let quotes := (cs.takeWhile (· == quote)).length
        if quotes < 3 then
          multilineFrom? quote escapes fuel (List.replicate quotes quote ++ read) (cs.drop quotes)
        else if quotes < 6 then
          some (String.ofList (List.replicate (quotes - 3) quote ++ read).reverse, cs.drop quotes)
        else none
      else if escapes && c = '\\' then
        match continuation? rest with
        | some rest => multilineFrom? quote escapes fuel read rest
        | none => do
          let (c, rest) ← escape? rest
          multilineFrom? quote escapes fuel (c :: read) rest
      else
        match newline? cs with
        | some rest => multilineFrom? quote escapes fuel ('\n' :: read) rest
        | none => if isPrinting c then multilineFrom? quote escapes fuel (c :: read) rest else none

def multiline? (quote : Char) (escapes : Bool) (cs : List Char) : Option (String × List Char) :=
  multilineFrom? quote escapes (cs.length + 1) [] ((newline? cs).getD cs)

def lineText? : Scan String
  | '"' :: cs => basicFrom? (cs.length + 1) [] cs
  | '\x27' :: cs => literal? cs
  | _ => none

def text? : Scan String
  | '"' :: '"' :: '"' :: cs => multiline? '"' true cs
  | '\x27' :: '\x27' :: '\x27' :: cs => multiline? '\x27' false cs
  | cs => lineText? cs

end SqlSelect.Toml

import SqlSelect.Json.Basic
import SqlSelect.Decimal.Layout
import SqlSelect.Text.Digits

namespace SqlSelect.Json

/-- Reals are positional from `0.00001` up to below `1e+16`, and keep a point there. A tie between two shortest decimals
goes to the even one. -/
def realLayout : Layout := ⟨.even, some (-5), some 16⟩

def escapeChar (c : Char) : List Char :=
  if c = '"' then ['\\', '"']
  else if c = '\\' then ['\\', '\\']
  else if c = '\x08' then ['\\', 'b']
  else if c = '\t' then ['\\', 't']
  else if c = '\n' then ['\\', 'n']
  else if c = '\x0c' then ['\\', 'f']
  else if c = '\r' then ['\\', 'r']
  else if c.toNat < 0x20 then ['\\', 'u', '0', '0', Text.hexDigit (c.toNat / 16), Text.hexDigit (c.toNat % 16)]
  else [c]

def quote (text : String) : String :=
  String.ofList ('"' :: text.toList.flatMap escapeChar ++ ['"'])

mutual
def print : Json → String
  | null => "null"
  | bool b => if b then "true" else "false"
  | integer n => toString n
  | real x => realLayout.write x
  | text s => quote s
  | array items => "[" ++ ",".intercalate (printItems items) ++ "]"
  | object fields => "\x7b" ++ ",".intercalate (printFields fields) ++ "\x7d"

def printItems : List Json → List String
  | [] => []
  | item :: items => print item :: printItems items

def printFields : List (String × Json) → List String
  | [] => []
  | (name, value) :: fields => (quote name ++ ":" ++ print value) :: printFields fields
end

end SqlSelect.Json

import SqlSelect.Text.Unseen

namespace SqlSelect.Text

def visible (c : Char) : List Char :=
  if c = '\x00' then ['\\', '0']
  else if c = '\t' then ['\\', 't']
  else if c = '\n' then ['\\', 'n']
  else if c = '\r' then ['\\', 'r']
  else if c = '\x22' then ['\\', '\x22']
  else if c = '\\' then ['\\', '\\']
  else if isUnseen c then '\\' :: 'u' :: '\x7b' :: Nat.toDigits 16 c.toNat ++ ['\x7d']
  else [c]

def display (text : String) : String :=
  String.ofList ('\x22' :: text.toList.flatMap visible ++ ['\x22'])

end SqlSelect.Text

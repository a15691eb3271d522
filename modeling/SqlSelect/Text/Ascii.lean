namespace SqlSelect.Text

def upper (text : String) : String := String.ofList (text.toList.map Char.toUpper)

def sameLetters (left right : String) : Bool := upper left == upper right

def isPlainIdentifier (name : String) : Bool :=
  !name.toList.isEmpty && name.toList.all fun c => c.isAlphanum || c == '_' || c == '$'

end SqlSelect.Text

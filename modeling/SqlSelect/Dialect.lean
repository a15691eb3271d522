import SqlSelect.Json.Printer
import SqlSelect.Text.Quoted

namespace SqlSelect

inductive Dialect where
  | plain | ansi | mysql
  deriving DecidableEq, Repr, Inhabited

namespace Dialect

def quoteIdent : Dialect → String → String
  | plain, ident => ident
  | ansi, ident => Text.enclose '\x22' ident.toList
  | mysql, ident => Text.enclose '\x60' ident.toList

def qualifyColumn (dialect : Dialect) (table column : String) : String :=
  dialect.quoteIdent table ++ "." ++ dialect.quoteIdent column

/-- Strings stand in single quotes. A backslash escapes in MySQL strings, so it is doubled there. -/
def renderString : Dialect → String → String
  | mysql, value => Text.enclose '\x27' (Text.double '\\' value.toList)
  | _, value => Text.enclose '\x27' value.toList

def renderBool : Dialect → Bool → String
  | mysql, value => if value then "1" else "0"
  | _, value => if value then "true" else "false"

mutual
def renderLiteral (dialect : Dialect) : Json → String
  | .null => "NULL"
  | .bool value => dialect.renderBool value
  | .integer value => toString value
  | .real value => Json.realLayout.write value
  | .text value => dialect.renderString value
  | .array items => ", ".intercalate (renderItems dialect items)
  | .object fields => dialect.renderString (Json.print (.object fields))

def renderItems (dialect : Dialect) : List Json → List String
  | [] => []
  | item :: items => renderLiteral dialect item :: renderItems dialect items
end

end Dialect
end SqlSelect

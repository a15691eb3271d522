import SqlSelect.Query
import SqlSelect.Toml.Reader
import SqlSelect.Decimal.Layout
import SqlSelect.Text.Visible

namespace SqlSelect

structure Config where
  dialect : Dialect := .plain
  qualify : Qualify := .auto
  maxConcurrency : Nat := 16
  deriving DecidableEq, Repr, Inhabited

inductive ConfigError where
  | unreadable
  | malformed
  | unknownName (name : String) (known : List String)
  | notAName
  | wrongType (found : Toml) (expected : String)
  | negative (value : Int)

namespace Toml

def realLayout : Layout := ⟨.away, none, none⟩

def realText (x : Binary64) : String :=
  if x.isNaN then "NaN"
  else if x.isFinite then realLayout.write x
  else if x.negative then "-inf" else "inf"

def describe : Toml → String
  | text value => "string " ++ Text.display value
  | integer value => "integer \x60" ++ toString value ++ "\x60"
  | real value => "floating point \x60" ++ realText value ++ "\x60"
  | boolean value => "boolean \x60" ++ (if value then "true" else "false") ++ "\x60"
  | moment | table .. => "map"
  | array _ | tables _ => "sequence"

end Toml

namespace ConfigError

def reason? : ConfigError → Option String
  | unknownName name known =>
    some ("unknown variant \x60" ++ name ++ "\x60, expected one of " ++
      ", ".intercalate (known.map fun name => "\x60" ++ name ++ "\x60"))
  | wrongType found expected => some ("invalid type: " ++ found.describe ++ ", expected " ++ expected)
  | negative value => some ("invalid value: integer \x60" ++ toString value ++ "\x60, expected usize")
  | unreadable | malformed | notAName => none

end ConfigError

namespace Config

def dialects : List (String × Dialect) := [("plain", .plain), ("ansi", .ansi), ("mysql", .mysql)]

def policies : List (String × Qualify) := [("auto", .auto), ("always", .always), ("never", .never)]

def named {α : Type} (known : List (String × α)) (name : String) : Except ConfigError α :=
  match known.find? (·.1 == name) with
  | some (_, value) => .ok value
  | none => .error (.unknownName name (known.map (·.1)))

def choice {α : Type} (known : List (String × α)) : Toml → Except ConfigError α
  | .text name => named known name
  | .table _ [(name, content)] => do
    let value ← named known name
    match content with
    | .table _ [] | .array [] => .ok value
    | _ => .error .notAName
  | _ => .error .notAName

def count : Toml → Except ConfigError Nat
  | .integer n => if 0 ≤ n then .ok n.toNat else .error (.negative n)
  | found => .error (.wrongType found "usize")

/-- The settings of a section by name. An array gives them in the order of their names. -/
def settings (names : List String) (expected : String) : Toml → Except ConfigError Toml.Entries
  | .table _ entries => .ok entries
  | .array items => .ok (names.zip items)
  | .tables items => .ok (names.zip (items.map (.table .header)))
  | .moment => .ok []
  | found => .error (.wrongType found expected)

def setBuilder (config : Config) : String × Toml → Except ConfigError Config
  | ("dialect", value) => do .ok { config with dialect := ← choice dialects value }
  | ("qualify_columns", value) => do .ok { config with qualify := ← choice policies value }
  | _ => .ok config

def setExecutor (config : Config) : String × Toml → Except ConfigError Config
  | ("max_concurrency", value) => do .ok { config with maxConcurrency := ← count value }
  | _ => .ok config

def setSection (config : Config) : String × Toml → Except ConfigError Config
  | ("builder", value) => do
    (← settings ["dialect", "qualify_columns"] "struct BuilderConfig" value).foldlM setBuilder config
  | ("executor", value) => do
    (← settings ["max_concurrency"] "struct ExecutorConfig" value).foldlM setExecutor config
  | _ => .ok config

def ofToml (source : String) : Except ConfigError Config :=
  match Toml.read? source with
  | some entries => entries.foldlM setSection {}
  | none => .error .malformed

end Config

def Query.ofConfig (config : Config) : Query :=
  { dialect := config.dialect, qualify := config.qualify }

end SqlSelect

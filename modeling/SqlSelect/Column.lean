import SqlSelect.Registry

namespace SqlSelect

structure Column where
  name : String
  aliasName : Option String
  table : Nat
  deriving DecidableEq, Repr

structure ColumnSpec where
  name : String
  aliasName : Option String
  deriving DecidableEq, Repr

structure ColumnReference where
  table : Option String
  column : String
  deriving DecidableEq, Repr

/-- Blanks around a reference and around its first dot do not count; there has to be something else on both
sides of that dot. -/
def ColumnReference.parse (reference : String) : Except QueryError ColumnReference :=
  let stripped := Text.strip reference.toList
  let malformed := .error (.invalidReference (.malformedColumn (String.ofList stripped)))
  match Text.cut '.' stripped with
  | none => if stripped.isEmpty then malformed else .ok ⟨none, String.ofList stripped⟩
  | some (left, right) =>
    let table := Text.strip left
    let column := Text.strip right
    if table.isEmpty || column.isEmpty then malformed
    else .ok ⟨some (String.ofList table), String.ofList column⟩

structure ResolvedColumn where
  column : Column
  registry : Registry
  events : List Event
  deriving DecidableEq, Repr

def Registry.resolveColumn (registry : Registry) (base : Option Nat) (reference : String) :
    Except QueryError ResolvedColumn := do
  let parsed ← ColumnReference.parse reference
  match parsed.table with
  | some request =>
    let resolved ← registry.resolve request false
    .ok ⟨⟨parsed.column, none, resolved.id⟩, resolved.registry, [resolved.event]⟩
  | none =>
    match base with
    | some id => .ok ⟨⟨parsed.column, none, id⟩, registry, []⟩
    | none => .error (.missingBaseTable reference)

end SqlSelect

import SqlSelect.Decimal.Binary64

namespace SqlSelect

/-- How a table came about. A header defines a table once; the tables on the way to it are implied and may be defined
later. Dotted keys add to tables that dotted keys made and pass through implied ones. An inline table is complete. -/
inductive Origin where
  | header | implied | dotted | inline
  deriving DecidableEq, Repr

inductive Toml where
  | text (value : String)
  | integer (value : Int)
  | real (value : Binary64)
  | boolean (value : Bool)
  | moment
  | array (items : List Toml)
  | table (origin : Origin) (entries : List (String × Toml))
  | tables (items : List (List (String × Toml)))
  deriving Inhabited

namespace Toml

abbrev Entries := List (String × Toml)

def lookup? (key : String) : Entries → Option Toml
  | [] => none
  | (other, value) :: entries => if other = key then some value else lookup? key entries

def replace (key : String) (value : Toml) : Entries → Entries
  | [] => []
  | (other, kept) :: entries =>
    if other = key then (key, value) :: entries else (other, kept) :: replace key value entries

def erase (key : String) (entries : Entries) : Entries := entries.filter (·.1 != key)

def define? (key : String) (value : Toml) (entries : Entries) : Option Entries :=
  match lookup? key entries with
  | some _ => none
  | none => some (entries ++ [(key, value)])

/-- Changes the table that a path leads to, given with its origin. Tables missing on the way are made with the origin
`made`; an array of tables leads to its last table. Dotted keys do not pass a table that a header defined, and
nothing passes an inline table or another value. -/
def within? (made : Origin) (change : Origin → Entries → Option Entries) :
    List String → Origin → Entries → Option Entries
  | [], origin, entries => change origin entries
  | key :: path, _, entries =>
    match lookup? key entries with
    | none => do
      let inner ← within? made change path made []
      some (entries ++ [(key, table made inner)])
    | some (.table origin inner) =>
      if origin = .inline ∨ (made = .dotted ∧ origin = .header) then none
      else do
        let inner ← within? made change path origin inner
        some (replace key (table origin inner) entries)
    | some (.tables items) => do
      let last ← items.getLast?
      let inner ← within? made change path .header last
      some (replace key (tables (items.dropLast ++ [inner])) entries)
    | some _ => none

def assign? (path : List String) (key : String) (value : Toml) (entries : Entries) : Option Entries :=
  within? .dotted
    (fun origin entries =>
      if (origin == .dotted) == path.isEmpty then none else define? key value entries)
    path .header entries

abbrev Assignment := List String × String × Toml

def assignAll? (entries : Entries) (assignments : List Assignment) : Option Entries :=
  assignments.foldlM (fun entries (path, key, value) => assign? path key value entries) entries

def defineTable? (path : List String) (key : String) (assignments : List Assignment) (entries : Entries) :
    Option Entries :=
  within? .implied
    (fun _ entries =>
      match lookup? key entries with
      | none => do
        let inner ← assignAll? [] assignments
        some (entries ++ [(key, table .header inner)])
      | some (.table .implied inner) => do
        let inner ← assignAll? inner assignments
        some (erase key entries ++ [(key, table .header inner)])
      | some _ => none)
    path .header entries

def appendTable? (path : List String) (key : String) (assignments : List Assignment) (entries : Entries) :
    Option Entries :=
  within? .implied
    (fun _ entries => do
      let inner ← assignAll? [] assignments
      match lookup? key entries with
      | none => some (entries ++ [(key, tables [inner])])
      | some (.tables items) => some (replace key (tables (items ++ [inner])) entries)
      | some _ => none)
    path .header entries

end Toml
end SqlSelect

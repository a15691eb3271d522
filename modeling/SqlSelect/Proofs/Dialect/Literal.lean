import SqlSelect.Statement.Render
import Mathlib.Data.List.Forall2

namespace SqlSelect

namespace Json

mutual
def pieces : Json → List Json
  | array [] => [array []]
  | array (item :: items) => pieces item ++ piecesOf items
  | value => [value]

def piecesOf : List Json → List Json
  | [] => []
  | item :: items => pieces item ++ piecesOf items
end

theorem pieces_ne_nil : (value : Json) → value.pieces ≠ []
  | array [] => by simp [pieces]
  | array (item :: items) => by simp [pieces, pieces_ne_nil item]
  | null | bool _ | integer _ | real _ | text _ | object _ => by simp [pieces]

theorem piecesOf_ne_nil (item : Json) (items : List Json) : piecesOf (item :: items) ≠ [] := by
  rw [piecesOf]
  exact List.append_ne_nil_of_left_ne_nil item.pieces_ne_nil _

end Json

theorem Text.double_eq_flatMap (mark : Char) (cs : List Char) :
    double mark cs = cs.flatMap fun c => if c = mark then [c, c] else [c] := by
  induction cs with
  | nil => rfl
  | cons c cs ih =>
    rw [double, List.flatMap_cons, ih]
    by_cases same : c = mark
    · simp [same]
    · simp [same]

namespace Dialect

def escapeChar (dialect : Dialect) (c : Char) : List Char :=
  if c = '\x27' ∨ (dialect = .mysql ∧ c = '\\') then [c, c] else [c]

def inQuotes (dialect : Dialect) (text : String) : String :=
  String.ofList ('\x27' :: text.toList.flatMap dialect.escapeChar ++ ['\x27'])

inductive Spells : Dialect → Json → String → Prop where
  | null (dialect : Dialect) : Spells dialect .null "NULL"
  | word (dialect : Dialect) (other : dialect ≠ .mysql) (value : Bool) :
      Spells dialect (.bool value) (if value then "true" else "false")
  | digit (value : Bool) : Spells .mysql (.bool value) (if value then "1" else "0")
  | integer (dialect : Dialect) (value : Int) : Spells dialect (.integer value) (toString value)
  | real (dialect : Dialect) (value : Binary64) : Spells dialect (.real value) (Json.realLayout.write value)
  | text (dialect : Dialect) (value : String) : Spells dialect (.text value) (dialect.inQuotes value)
  | object (dialect : Dialect) (fields : List (String × Json)) :
      Spells dialect (.object fields) (dialect.inQuotes (Json.print (.object fields)))
  | empty (dialect : Dialect) : Spells dialect (.array []) ""

variable (dialect : Dialect)

theorem escapeChar_of_other (other : dialect ≠ .mysql) :
    dialect.escapeChar = fun c => if c = '\x27' then [c, c] else [c] := by
  funext c
  simp [escapeChar, other]

theorem double_double (cs : List Char) :
    Text.double '\x27' (Text.double '\\' cs) = cs.flatMap (escapeChar .mysql) := by
  -- the backslashes that were added are no quotes, so the second doubling leaves them alone
  rw [Text.double_eq_flatMap, Text.double_eq_flatMap, List.flatMap_assoc]
  congr 1
  funext c
  by_cases escape : c = '\\'
  · simp [escapeChar, escape]
  · simp [escapeChar, escape]

theorem renderString_eq (text : String) : dialect.renderString text = dialect.inQuotes text := by
  by_cases escaping : dialect = .mysql
  · subst escaping
    rw [renderString, inQuotes, Text.enclose, double_double]
  · rw [renderString, inQuotes, Text.enclose, Text.double_eq_flatMap, dialect.escapeChar_of_other escaping]
    exact escaping

theorem spells_bool (value : Bool) : dialect.Spells (.bool value) (dialect.renderLiteral (.bool value)) := by
  cases dialect with
  | plain => exact .word .plain (by decide) value
  | ansi => exact .word .ansi (by decide) value
  | mysql => exact .digit value

theorem spells_text (value : String) : dialect.Spells (.text value) (dialect.renderLiteral (.text value)) := by
  rw [renderLiteral, renderString_eq]
  exact .text dialect value

theorem spells_object (fields : List (String × Json)) :
    dialect.Spells (.object fields) (dialect.renderLiteral (.object fields)) := by
  rw [renderLiteral, renderString_eq]
  exact .object dialect fields

mutual
theorem renderLiteral_eq : (value : Json) →
    dialect.renderLiteral value = ", ".intercalate (value.pieces.map dialect.renderLiteral)
  | .array [] => String.intercalate_singleton.symm
  | .array (item :: items) => by
    rw [renderLiteral, Json.pieces, ← Json.piecesOf]
    exact intercalate_renderItems (item :: items)
  | .null | .bool _ | .integer _ | .real _ | .text _ | .object _ => String.intercalate_singleton.symm

theorem intercalate_renderItems : (items : List Json) →
    ", ".intercalate (dialect.renderItems items) = ", ".intercalate ((Json.piecesOf items).map dialect.renderLiteral)
  | [] => rfl
  | [item] => by
    rw [Json.piecesOf, Json.piecesOf, List.append_nil, ← renderLiteral_eq item]
    exact String.intercalate_singleton
  | item :: next :: items => by
    have rest := intercalate_renderItems (next :: items)
    have first : item.pieces.map dialect.renderLiteral ≠ [] := by simp [item.pieces_ne_nil]
    have later : (Json.piecesOf (next :: items)).map dialect.renderLiteral ≠ [] := by simp [Json.piecesOf_ne_nil]
    rw [Json.piecesOf, List.map_append, String.intercalate_append_of_ne_nil first later, ← rest, ← renderLiteral_eq item]
    exact String.intercalate_cons_cons
end

mutual
theorem spells_pieces : (value : Json) →
    List.Forall₂ dialect.Spells value.pieces (value.pieces.map dialect.renderLiteral)
  | .array [] => .cons (.empty dialect) .nil
  | .array (item :: items) => by
    rw [Json.pieces, List.map_append]
    exact List.rel_append (spells_pieces item) (spells_piecesOf items)
  | .null => .cons (.null dialect) .nil
  | .bool value => .cons (dialect.spells_bool value) .nil
  | .integer value => .cons (.integer dialect value) .nil
  | .real value => .cons (.real dialect value) .nil
  | .text value => .cons (dialect.spells_text value) .nil
  | .object fields => .cons (dialect.spells_object fields) .nil

theorem spells_piecesOf : (items : List Json) →
    List.Forall₂ dialect.Spells (Json.piecesOf items) ((Json.piecesOf items).map dialect.renderLiteral)
  | [] => .nil
  | item :: items => by
    rw [Json.piecesOf, List.map_append]
    exact List.rel_append (spells_pieces item) (spells_piecesOf items)
end

theorem operandText_eq (tables : Registry) (qualified : Bool) (operator : Operator) (value : Json) :
    Scope.operandText ⟨dialect, tables, qualified⟩ operator value =
      if operator = .inList ∨ operator = .notInList then "(" ++ dialect.renderLiteral value ++ ")"
      else dialect.renderLiteral value := by
  cases operator <;> rfl

/-- A literal is the list of its pieces, each spelled as its dialect spells that value alone. Behind IN and NOT IN it
stands in parentheses, whatever the nesting of its arrays. -/
theorem renderLiteral_pieces (value : Json) :
    (∃ texts, List.Forall₂ dialect.Spells value.pieces texts ∧ texts = value.pieces.map dialect.renderLiteral ∧
        dialect.renderLiteral value = ", ".intercalate texts) ∧
      ∀ (tables : Registry) (qualified : Bool) (operator : Operator),
        Scope.operandText ⟨dialect, tables, qualified⟩ operator value =
          if operator = .inList ∨ operator = .notInList then "(" ++ dialect.renderLiteral value ++ ")"
          else dialect.renderLiteral value := by
  refine ⟨⟨_, dialect.spells_pieces value, rfl, dialect.renderLiteral_eq value⟩, ?_⟩
  intro tables qualified operator
  exact dialect.operandText_eq tables qualified operator value

/-- An empty array in the middle leaves an empty piece, and the backslash in the inner array is doubled. -/
example : mysql.renderLiteral (.array [.bool true, .array [.array [], .text "a\\b"], .null]) =
    "1, , 'a\\\\b', NULL" := by decide

end Dialect
end SqlSelect

import SqlSelect.Proofs.Dialect.Literal

namespace SqlSelect.Dialect

inductive Token where
  | fixed (text : String)
  | ident (name : String)
  | string (value : String)
  | boolean (value : Bool)
  deriving DecidableEq, Repr

def spellToken (dialect : Dialect) : Token → String
  | .fixed text => text
  | .ident name => dialect.quoteIdent name
  | .string value => dialect.renderString value
  | .boolean value => dialect.renderLiteral (.bool value)

def spell (dialect : Dialect) (tokens : List Token) : String := String.join (tokens.map dialect.spellToken)

def keywords : List String :=
  ["SELECT", "SELECT DISTINCT", " *", " FROM ", " JOIN ", " ON ", " = ", " WHERE ", " GROUP BY ", " AS ", "AND", "OR",
    "=", "!=", "<", "<=", ">", ">=", "LIKE", "NOT LIKE", "IN", "NOT IN", "IS", "IS NOT", "NULL", " ", ", ", ".", "(",
    ")"]

inductive Spread : List Token → List Token → Prop where
  | nil : Spread [] []
  | shown (token : Token) (shown tokens : List Token) (rest : Spread shown tokens) :
      Spread (token :: shown) (token :: tokens)
  | keyword (text : String) (known : text ∈ keywords) (shown tokens : List Token) (rest : Spread shown tokens) :
      Spread shown (.fixed text :: tokens)

theorem Spread.append {shown tokens later others : List Token} (first : Spread shown tokens)
    (second : Spread later others) : Spread (shown ++ later) (tokens ++ others) := by
  induction first with
  | nil => exact second
  | shown token shown tokens _ ih => exact .shown token (shown ++ later) (tokens ++ others) ih
  | keyword text known shown tokens _ ih => exact .keyword text known (shown ++ later) (tokens ++ others) ih

theorem Spread.fixed {shown tokens : List Token} (spread : Spread shown tokens) (text : String)
    (member : .fixed text ∈ tokens) : text ∈ keywords ∨ .fixed text ∈ shown := by
  induction spread with
  | nil => cases member
  | shown token shown tokens _ ih =>
    rcases List.mem_cons.mp member with rfl | member
    · exact .inr List.mem_cons_self
    · exact (ih member).imp_right (List.mem_cons_of_mem token)
  | keyword other known shown tokens _ ih =>
    rcases List.mem_cons.mp member with same | member
    · cases same
      exact .inl known
    · exact ih member

/-- All dialects write the text from one list of tokens, the shown ones and keywords. -/
def Writes (text : Dialect → String) (shown : List Token) : Prop :=
  ∃ tokens, (∀ dialect, text dialect = dialect.spell tokens) ∧ Spread shown tokens

namespace Writes

theorem nil : Writes (fun _ => "") [] := ⟨[], fun _ => rfl, .nil⟩

theorem keyword (text : String) (known : text ∈ keywords) : Writes (fun _ => text) [] :=
  ⟨[.fixed text], fun _ => by simp [spell, spellToken], .keyword text known [] [] .nil⟩

theorem token (token : Token) : Writes (fun dialect => dialect.spellToken token) [token] :=
  ⟨[token], fun _ => by simp [spell], .shown token [] [] .nil⟩

theorem append {first second : Dialect → String} {shown later : List Token} (left : Writes first shown)
    (right : Writes second later) : Writes (fun dialect => first dialect ++ second dialect) (shown ++ later) := by
  obtain ⟨tokens, spelled, spread⟩ := left
  obtain ⟨others, written, behind⟩ := right
  refine ⟨tokens ++ others, ?_, spread.append behind⟩
  intro dialect
  simp only [spelled, written, spell, List.map_append, String.join_append]

theorem behind {text : Dialect → String} {shown : List Token} (mark : String) (known : mark ∈ keywords)
    (writes : Writes text shown) : Writes (fun dialect => mark ++ text dialect) shown :=
  (keyword mark known).append writes

theorem closed {text : Dialect → String} {shown : List Token} (writes : Writes text shown) (mark : String)
    (known : mark ∈ keywords) : Writes (fun dialect => text dialect ++ mark) shown := by
  have both := writes.append (keyword mark known)
  rwa [List.append_nil] at both

theorem around {first second : Dialect → String} {shown later : List Token} (left : Writes first shown) (mark : String)
    (known : mark ∈ keywords) (right : Writes second later) :
    Writes (fun dialect => first dialect ++ mark ++ second dialect) (shown ++ later) :=
  (left.closed mark known).append right

theorem ident (name : String) : Writes (fun dialect => dialect.quoteIdent name) [.ident name] := token (.ident name)

variable {α : Type} (text : α → Dialect → String) (shown : α → List Token) (items : List α)
  (each : ∀ item ∈ items, Writes (text item) (shown item))

include each

theorem join : Writes (fun dialect => String.join (items.map (text · dialect))) (items.flatMap shown) := by
  induction items with
  | nil => exact nil
  | cons item items ih =>
    have rest := ih fun other member => each other (List.mem_cons_of_mem item member)
    have both := (each item List.mem_cons_self).append rest
    simpa only [List.map_cons, String.join_cons, List.flatMap_cons] using both

theorem intercalate (mark : String) (known : mark ∈ keywords) :
    Writes (fun dialect => mark.intercalate (items.map (text · dialect))) (items.flatMap shown) := by
  induction items with
  | nil => exact nil
  | cons item items ih =>
    have first := each item List.mem_cons_self
    have rest := ih fun other member => each other (List.mem_cons_of_mem item member)
    cases items with
    | nil => simpa using first
    | cons next items =>
      have all := first.append (rest.behind mark known)
      simpa only [List.map_cons, String.intercalate_cons_cons, List.flatMap_cons, String.append_assoc] using all

end Writes
end Dialect

def Json.pieceTokens : Json → List Dialect.Token
  | .null | .array _ => []
  | .bool value => [.boolean value]
  | .integer value => [.fixed (toString value)]
  | .real value => [.fixed (Json.realLayout.write value)]
  | .text value => [.string value]
  | .object fields => [.string (Json.print (.object fields))]

def Json.tokens (value : Json) : List Dialect.Token := value.pieces.flatMap Json.pieceTokens

def Json.IsNumeral (text : String) : Prop :=
  (∃ value : Int, text = toString value) ∨ ∃ value : Binary64, text = Json.realLayout.write value

theorem Json.numeral_of_fixed (value : Json) (text : String) (member : .fixed text ∈ value.tokens) :
    Json.IsNumeral text := by
  obtain ⟨piece, _, shown⟩ := List.mem_flatMap.mp member
  cases piece with
  | integer value => exact .inl ⟨value, by simpa [pieceTokens] using shown⟩
  | real value => exact .inr ⟨value, by simpa [pieceTokens] using shown⟩
  | null | array | bool | text | object => simp [pieceTokens] at shown

namespace Dialect

theorem writes_piece (piece : Json) (text : String) (spells : Spells .plain piece text) :
    Writes (fun dialect => dialect.renderLiteral piece) piece.pieceTokens := by
  cases spells with
  | null => exact .keyword "NULL" (by decide)
  | word _ _ value => exact .token (.boolean value)
  | integer _ value => exact .token (.fixed (toString value))
  | real _ value => exact .token (.fixed (Json.realLayout.write value))
  | text _ value => exact .token (.string value)
  | object _ fields => exact .token (.string (Json.print (.object fields)))
  | empty => exact .nil

theorem writes_literal (value : Json) : Writes (fun dialect => dialect.renderLiteral value) value.tokens := by
  have spells := List.forall₂_same.mp (List.forall₂_map_right_iff.mp (plain.spells_pieces value))
  have pieces := Writes.intercalate (fun piece dialect => dialect.renderLiteral piece) Json.pieceTokens value.pieces
    (fun piece member => writes_piece piece _ (spells piece member)) ", " (by decide)
  simp only [← renderLiteral_eq] at pieces
  exact pieces

end Dialect
end SqlSelect

import SqlSelect.Statement.Render
import SqlSelect.Engine.Cast

namespace SqlSelect

abbrev Truth := Option Bool

namespace Truth

def not (a : Truth) : Truth := a.map (!·)

def and : Truth → Truth → Truth
  | some false, _ | _, some false => some false
  | some true, some true => some true
  | _, _ => none

def or : Truth → Truth → Truth
  | some true, _ | _, some true => some true
  | some false, some false => some false
  | _, _ => none

end Truth

namespace Operator

def accepts? : Operator → Option (Ordering → Bool)
  | eq => some (· == .eq)
  | neq => some (· != .eq)
  | lt => some (· == .lt)
  | lte => some (· != .gt)
  | gt => some (· == .gt)
  | gte => some (· != .lt)
  | _ => none

def isEquality : Operator → Bool
  | eq | neq | inList | notInList => true
  | _ => false

end Operator

namespace Text

/-- What may be left of a text behind one more character of a pattern: `%` stands for any text, `_` for one character.
The rests are in the order of their lengths, from the longest. -/
def restsBehind (rests : List (List Char)) (c : Char) : List (List Char) :=
  if c = '%' then
    let longest := rests.headD []
    if rests.isEmpty then [] else (List.range (longest.length + 1)).map longest.drop
  else rests.filterMap fun rest =>
    match rest with
    | [] => none
    | d :: rest => if c = '_' || c = d then some rest else none

def fits (pattern text : String) : Bool :=
  (pattern.toList.foldl restsBehind [text.toList]).any List.isEmpty

end Text

def compareWith (accepts : Ordering → Bool) (a b : Option Comparable) : Truth := do
  let order ← (← a).order? (← b)
  some (accepts order)

mutual
def Json.pieces? : Json → Option (List Json)
  | .array items =>
    match items with
    | [] => none
    | item :: items => do some ((← pieces? item) ++ (← itemPieces? items))
  | .object fields => some [.text (Json.print (.object fields))]
  | value => some [value]

def Json.itemPieces? : List Json → Option (List Json)
  | [] => some []
  | item :: items => do some ((← pieces? item) ++ (← itemPieces? items))
end

/-- The type in which a column is compared with literals that were found in a common type: the column's own one where it
has the single literal, and numbers are not compared as floating-point numbers. -/
def CellType.comparedIn (type common : CellType) (operator : Operator) (operands : List (Option Comparable)) :
    CellType :=
  if !operator.takesList && common.shape?.isSome && operands.all fun operand => operand.all type.hasValue then type
  else common

def CellType.test (type : CellType) (cells : List Cell) (operator : Operator) (value : Json) :
    Except QueryError (Cell → Truth) :=
  match value.pieces? with
  | none => .error (.database "syntax error: a list is empty")
  | some pieces =>
    match operator, pieces with
    | .is, [.null] => .ok fun cell => some (cell matches .null)
    | .isNot, [.null] => .ok fun cell => some (!(cell matches .null))
    | .is, [.bool wanted] | .isNot, [.bool wanted] =>
      if type.isNumeric || type matches .boolean then
        .ok fun cell => some (((type.cast? cell).map Comparable.isTrue == some wanted) == (operator == .is))
      else .error (.database "the type has no truth values")
    | .like, [piece] | .notLike, [piece] =>
      match type, piece with
      | .text, .text pattern | .enumeration _, .text pattern =>
        .ok fun cell =>
          match cell with
          | .text value => some (Text.fits pattern value == (operator == .like))
          | _ => none
      | .text, .null | .enumeration _, .null => .ok fun _ => none
      | _, _ => .error (.database "only texts fit a pattern")
    | operator, pieces => do
      let (common, operands) ← type.operands operator.isEquality pieces
      let common := type.comparedIn common operator operands
      if operands.any Option.isSome then
        let _ ← cells.mapM common.comparable
      match operator, operands with
      | .inList, operands | .notInList, operands =>
        let holds := fun (cell : Cell) =>
          operands.foldl
            (fun truth operand => Truth.or truth (compareWith (· == .eq) (common.cast? cell) operand))
            (some false)
        .ok fun cell => if operator = .inList then holds cell else (holds cell).not
      | operator, [operand] =>
        match operator.accepts? with
        | some accepts => .ok fun cell => compareWith accepts (common.cast? cell) operand
        | none => .error (.database "syntax error: only NULL and truth values can be asked for by IS")
      | _, _ => .error (.database "syntax error: a list where one value is expected")

def chainedTruth : List (Chain × Truth) → Truth
  | [] => some true
  | (_, first) :: rest => go first rest
where
    go (run : Truth) : List (Chain × Truth) → Truth
    | [] => run
    | (.and, next) :: rest => go (run.and next) rest
    | (.or, next) :: rest => run.or (go next rest)

abbrev RowTest := List Cell → Truth

mutual
def Condition.test? (column : Column → Operator → Json → Except QueryError RowTest) :
    Condition → Except QueryError (Option RowTest)
  | .simple _ name operator value => do .ok (some (← column name operator value))
  | .group _ conditions => do
    match ← conditionTests column conditions with
    | [] => .ok none
    | tests => .ok (some fun row => chainedTruth (tests.map fun (chain, test) => (chain, test row)))

def conditionTests (column : Column → Operator → Json → Except QueryError RowTest) :
    List Condition → Except QueryError (List (Chain × RowTest))
  | [] => .ok []
  | condition :: conditions => do
    let test ← condition.test? column
    let rest ← conditionTests column conditions
    .ok (match test with
      | none => rest
      | some test => (condition.chain, test) :: rest)
end

end SqlSelect

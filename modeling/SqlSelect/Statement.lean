import SqlSelect.Condition

namespace SqlSelect

structure Joint where
  table : Nat
  left : Column
  right : Column
  deriving DecidableEq, Repr

structure Statement where
  operation : Operation
  base : Option Nat
  columns : List Column
  joints : List Joint
  conditions : List Condition
  grouping : Option Column
  tables : Registry

end SqlSelect

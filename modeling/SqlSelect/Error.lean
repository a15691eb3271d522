import SqlSelect.Operation

namespace SqlSelect

inductive ReferenceFault where
  | malformedTable (request : String)
  | malformedColumn (reference : String)
  | emptyColumn
  | emptyGrouping
  | described (detail : String)
  deriving DecidableEq, Repr

def ReferenceFault.message : ReferenceFault → String
  | malformedTable request => "malformed table reference '" ++ request ++ "'"
  | malformedColumn reference => "malformed column reference '" ++ reference ++ "'"
  | emptyColumn => "empty column name in select list"
  | emptyGrouping => "empty group by column"
  | described detail => detail

inductive QueryError where
  | operationConflict (current requested : Operation)
  | noOperation
  | missingBaseTable (reference : String)
  | duplicateColumnAlias (aliasName : String)
  | unresolvableTable (basename aliasName : String)
  | invalidReference (fault : ReferenceFault)
  | invalidOperator (text : String)
  | noExecutor
  | execution (detail : String)
  | config (detail : String)
  | io (detail : String)
  | database (detail : String)
  | other (detail : String)
  deriving DecidableEq, Repr

def QueryError.message : QueryError → String
  | operationConflict current requested =>
    "cannot perform " ++ requested.describe ++ " on a " ++ current.describe ++ " statement"
  | noOperation => "no operation defined; call select before generating sql"
  | missingBaseTable reference =>
    "cannot resolve column " ++ reference ++ ": no base table has been selected"
  | duplicateColumnAlias aliasName =>
    "two different columns requested with the same alias " ++ aliasName
  | unresolvableTable basename aliasName =>
    "table " ++ basename ++ " cannot be registered under alias " ++ aliasName
  | invalidReference fault => "invalid reference: " ++ fault.message
  | invalidOperator text => "invalid operator: " ++ text
  | noExecutor => "no executor attached to this query"
  | execution detail => "execution error: " ++ detail
  | config detail => "config error: " ++ detail
  | io detail => "io error: " ++ detail
  | database detail => "duckdb error: " ++ detail
  | other detail => detail

end SqlSelect

import SqlSelect.Proofs.Query.Tables
import SqlSelect.Proofs.Registry.Failure

namespace SqlSelect

namespace Registry

variable (registry : Registry) (base : Option Nat) (reference : String)

theorem fault_of_resolveColumn (fault : QueryError) (failed : registry.resolveColumn base reference = .error fault) :
    let text := Text.trim reference
    (ColumnReference.Malformed text ∧ fault = .invalidReference (.malformedColumn text)) ∨
      (text ≠ "" ∧ '.' ∉ text.toList ∧ base = none ∧ fault = .missingBaseTable reference) ∨
      ∃ left right, text = left ++ "." ++ right ∧ registry.resolve (Text.trim left) false = .error fault := by
  intro text
  rcases ColumnReference.parse_cases reference with ⟨malformed, read⟩ | ⟨filled, single, read⟩ | ⟨left, right, split, read⟩
  · rw [resolveColumn_of_unreadable registry base reference _ read] at failed
    exact .inl ⟨malformed, (Except.error.inj failed).symm⟩
  · rw [resolveColumn_of_unqualified registry base reference _ read] at failed
    cases base with
    | some id => cases failed
    | none => exact .inr (.inl ⟨filled, single, rfl, (Except.error.inj failed).symm⟩)
  · rw [resolveColumn_of_qualified registry base reference _ _ read] at failed
    refine .inr (.inr ⟨left, right, split, ?_⟩)
    cases result : registry.resolve (Text.trim left) false with
    | error cause =>
      rw [result] at failed
      rw [Except.error.inj failed]
    | ok resolved =>
      rw [result] at failed
      cases failed

theorem resolveColumn_eq_malformed_iff (shown : String) :
    registry.resolveColumn base reference = .error (.invalidReference (.malformedColumn shown)) ↔
      shown = Text.trim reference ∧ ColumnReference.Malformed (Text.trim reference) := by
  constructor
  · intro failed
    rcases fault_of_resolveColumn registry base reference _ failed with
      ⟨malformed, same⟩ | ⟨_, _, _, same⟩ | ⟨left, right, _, refused⟩
    · cases same
      exact ⟨rfl, malformed⟩
    · cases same
    · rcases fault_of_resolve registry _ false _ refused with same | ⟨_, _, same⟩ <;> cases same
  · rintro ⟨rfl, malformed⟩
    exact resolveColumn_of_unreadable registry base reference _ (ColumnReference.parse_of_malformed reference malformed)

theorem resolveColumn_eq_missing_iff (shown : String) :
    registry.resolveColumn base reference = .error (.missingBaseTable shown) ↔
      shown = reference ∧ Text.trim reference ≠ "" ∧ '.' ∉ (Text.trim reference).toList ∧ base = none := by
  constructor
  · intro failed
    rcases fault_of_resolveColumn registry base reference _ failed with
      ⟨_, same⟩ | ⟨filled, single, unset, same⟩ | ⟨left, right, _, refused⟩
    · cases same
    · cases same
      exact ⟨rfl, filled, single, unset⟩
    · rcases fault_of_resolve registry _ false _ refused with same | ⟨_, _, same⟩ <;> cases same
  · rintro ⟨rfl, filled, single, rfl⟩
    rw [resolveColumn_of_unqualified registry none shown _ (ColumnReference.parse_of_name shown filled single)]

end Registry

namespace Query

theorem filter_of_failed (query : Query) (reference : String) (fault : QueryError)
    (failed : query.tables.resolveColumn query.base reference = .error fault) (chain : Chain) (operator : OperatorSpec)
    (known : Operator) (value : Json) (readable : operator.resolve = .ok known) :
    query.filter chain reference operator value = query.failed [] fault := by
  simp only [filter, readable, failed]

/-- A reference without a dot is to the base table, and one with a dot to the table that the request in front of the
first one names. One that fails changes nothing. Blanks around a reference and around its first dot do not count. -/
theorem column_of_reference (calls : List Call) :
    let query := ({} : Query).runAll calls
    let read := query.tables.resolveColumn query.base
    (∀ reference parsed, ColumnReference.parse reference = .ok parsed ↔ ColumnReference.Spells reference parsed) ∧
      (∀ reference,
        let text := Text.trim reference
        (∀ shown, read reference = .error (.invalidReference (.malformedColumn shown)) ↔
          shown = text ∧ (text = "" ∨ ∃ left right, text = left ++ "." ++ right ∧ '.' ∉ left.toList ∧
            (Text.isAllBlank left = true ∨ Text.isAllBlank right = true))) ∧
        (∀ shown, read reference = .error (.missingBaseTable shown) ↔
          shown = reference ∧ text ≠ "" ∧ '.' ∉ text.toList ∧ query.base = none) ∧
        (∀ id, query.base = some id → text ≠ "" → '.' ∉ text.toList →
          id < query.tables.size ∧ read reference = .ok ⟨⟨text, none, id⟩, query.tables, []⟩) ∧
        (∀ left right, text = left ++ "." ++ right → '.' ∉ left.toList → Text.isAllBlank left = false →
          Text.isAllBlank right = false →
          read reference = (query.tables.resolve (Text.trim left) false).map fun resolved =>
            ⟨⟨Text.trim right, none, resolved.id⟩, resolved.registry, [resolved.event]⟩) ∧
        ∀ fault, read reference = .error fault → ∀ chain operator known value, operator.resolve = .ok known →
          query.filter chain reference operator value = query.failed [] fault) ∧
      ∀ request column, Text.isAllBlank request = false → '.' ∉ request.toList → Text.isAllBlank column = false →
        ∀ front before behind tail, Text.isAllBlank front = true → Text.isAllBlank before = true →
          Text.isAllBlank behind = true → Text.isAllBlank tail = true →
          read (front ++ request ++ before ++ "." ++ (behind ++ column ++ tail)) = read (request ++ "." ++ column) := by
  intro query read
  have grounded : query.Grounded := grounded_runAll calls
  refine ⟨ColumnReference.parse_eq_ok_iff, ?_, ?_⟩
  · intro reference text
    refine ⟨Registry.resolveColumn_eq_malformed_iff query.tables query.base reference,
      Registry.resolveColumn_eq_missing_iff query.tables query.base reference, ?_, ?_, ?_⟩
    · intro id set filled single
      have bound := Registry.resolveColumn_of_unqualified query.tables query.base reference text
        (ColumnReference.parse_of_name reference filled single)
      rw [set] at bound
      refine ⟨grounded.base id set, ?_⟩
      simpa only [read, set] using bound
    · intro left right split first before behind
      exact Registry.resolveColumn_of_qualified _ _ _ _ _
        (ColumnReference.parse_of_halves reference left right split first before behind)
    · intro fault failed chain operator known value readable
      exact query.filter_of_failed reference fault failed chain operator known value readable
  · intro request column named single filled front before behind tail opened left right closed
    have padded := ColumnReference.parse_of_padded front request before behind column tail opened left right closed named
      single filled
    have plain := ColumnReference.parse_of_dot request column single
    rw [named, filled] at plain
    exact (Registry.resolveColumn_of_qualified _ _ _ _ _ padded).trans
      (Registry.resolveColumn_of_qualified _ _ _ _ _ plain).symm

/-- Blanks of several kinds stand around a request with an alias, the first of two dots, and the rest. -/
theorem column_of_reference_padded :
    let query := ({} : Query).runAll [.select "users u" [] false]
    let read := query.tables.resolveColumn query.base
    let padded := "\u00a0" ++ "users\tu" ++ "\n" ++ "." ++ (" " ++ "a.b" ++ "\u3000")
    read padded = read "users\tu.a.b" ∧
      read padded = ((query.tables.resolve "users\tu" false).map fun resolved =>
        ⟨⟨"a.b", none, resolved.id⟩, resolved.registry, [resolved.event]⟩) ∧
      read " id " = .ok ⟨⟨"id", none, 0⟩, query.tables, []⟩ ∧
      query.filter .and " .x" (.spelled "=") .null = query.failed [] (.invalidReference (.malformedColumn ".x")) ∧
      ({} : Query).tables.resolveColumn none " id " = .error (.missingBaseTable " id ") := by
  intro query read padded
  obtain ⟨_, each, around⟩ := column_of_reference [.select "users u" [] false]
  have same : read padded = read "users\tu.a.b" := around "users\tu" "a.b" (by decide) (by decide) (by decide) "\u00a0"
    "\n" " " "\u3000" (by decide) (by decide) (by decide) (by decide)
  have split : read padded = _ := (each padded).2.2.2.1 "users\tu\n" " a.b" (by decide) (by decide) (by decide) (by decide)
  have bound := (each " id ").2.2.1 0 (by rfl) (by decide) (by decide)
  have malformed : read " .x" = .error (.invalidReference (.malformedColumn ".x")) :=
    ((each " .x").1 ".x").mpr ⟨by decide, .inr ⟨"", "x", by decide, by decide, .inl (by decide)⟩⟩
  refine ⟨same, split, bound.2, (each " .x").2.2.2.2 _ malformed .and (.spelled "=") .eq .null (by rfl), ?_⟩
  exact (((column_of_reference []).2.1 " id ").2.1 " id ").mpr ⟨rfl, by decide, by decide, rfl⟩

end Query
end SqlSelect

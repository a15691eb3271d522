import SqlSelect.Proofs.Query.Tables
import SqlSelect.Proofs.Statement.Decoding
import SqlSelect.Proofs.Statement.Reference

namespace SqlSelect.Query

def outline? (query : Query) : Option (Outline String) := query.statement?.map Statement.outline

/-- All columns are plain identifiers in double quotes, with the aliases of their tables where there is more than one
table, and all values are null, booleans, integers or strings. -/
structure Readable (query : Query) : Prop where
  ansi : query.dialect = .ansi
  policy : query.qualify ≠ .never
  plain : ∀ column ∈ query.references, Text.isPlainIdentifier column.name = true
  scalar : ∀ comparison ∈ query.filters.comparisons, comparison.value.isScalar = true

variable (query : Query)

theorem references_of_statement? (statement : Statement) (set : query.statement? = some statement) :
    statement.references = query.references := by
  unfold statement? at set
  rw [Option.map_eq_some_iff] at set
  obtain ⟨operation, _, rfl⟩ := set
  rfl

theorem shown_or_base (grounded : query.Grounded) (policy : query.qualify ≠ .never) (base : Nat)
    (fixed : query.base = some base) (id : Nat) (known : id < query.tables.size) :
    query.tables.aliasOf id =
      ((Scope.of .ansi query.qualify query.tables).shown id).getD (query.tables.aliasOf base) := by
  unfold Scope.shown
  split
  · rfl
  · rename_i bare
    have single := Scope.size_of_unqualified .ansi query.qualify query.tables policy (Bool.eq_false_iff.mpr bare)
    have start := grounded.base base fixed
    have equal : id = base := by omega
    rw [equal]
    rfl

def completed (outline : Outline (Option String)) : Outline String :=
  outline.map (·.getD (outline.base.elim "" TableName.aliasName))

theorem outline_of_statement? (grounded : query.Grounded) (policy : query.qualify ≠ .never) (statement : Statement)
    (set : query.statement? = some statement) :
    statement.outline =
      completed (statement.outlineWith (Scope.of .ansi query.qualify statement.tables).shown) := by
  have owners := references_of_statement? query statement set
  unfold statement? at set
  rw [Option.map_eq_some_iff] at set
  obtain ⟨operation, started, rfl⟩ := set
  have based : query.base.isSome = true := by
    rw [← grounded.started, started]
    rfl
  obtain ⟨base, fixed⟩ := Option.isSome_iff_exists.mp based
  apply Statement.outline_map
  intro column member
  rw [owners] at member
  have known := query.shown_or_base grounded policy base fixed column.table (grounded.owners column member)
  rw [known, Statement.outlineWith, fixed]
  rfl

theorem text_of_generate (readable : query.Readable) (sql : String) (generated : query.generate = .ok sql) :
    ∃ statement, query.statement? = some statement ∧
      (statement.outlineWith (Scope.of .ansi query.qualify statement.tables).shown).text = sql.toList := by
  unfold generate at generated
  split at generated
  · rename_i statement set
    cases generated
    refine ⟨statement, set, ?_⟩
    have plain := readable.plain
    rw [← references_of_statement? query statement set] at plain
    rw [readable.ansi, Statement.render_eq_text statement query.qualify plain]
  · cases generated

theorem values_of_statement? (readable : query.Readable) (statement : Statement)
    (set : query.statement? = some statement) {ω : Type} (owner : Nat → ω) :
    ∀ value ∈ (statement.outlineWith owner).values, value.isScalar = true := by
  rw [Statement.values_outlineWith]
  unfold statement? at set
  rw [Option.map_eq_some_iff] at set
  obtain ⟨operation, _, rfl⟩ := set
  intro value member
  obtain ⟨comparison, among, rfl⟩ := List.mem_map.mp member
  exact readable.scalar comparison among

/-- Two queries with the same text have the same operation, select list, tables, joints, conditions and grouping,
groups that hold nothing and chains that are not written apart. -/
theorem outline_of_generate (first second : List Call) (sql : String)
    (readable : (({} : Query).runAll first).Readable) (legible : (({} : Query).runAll second).Readable)
    (generated : (({} : Query).runAll first).generate = .ok sql)
    (again : (({} : Query).runAll second).generate = .ok sql) :
    ∃ outline, (({} : Query).runAll first).outline? = some outline ∧
      (({} : Query).runAll second).outline? = some outline := by
  obtain ⟨statement, set, written⟩ := text_of_generate _ readable sql generated
  obtain ⟨other, fixed, same⟩ := text_of_generate _ legible sql again
  have equal := Outline.eq_of_text _ _ (values_of_statement? _ readable statement set _)
    (values_of_statement? _ legible other fixed _) (written.trans same.symm)
  have left := outline_of_statement? _ (grounded_runAll first) readable.policy statement set
  have right := outline_of_statement? _ (grounded_runAll second) legible.policy other fixed
  refine ⟨statement.outline, ?_, ?_⟩
  · rw [outline?, set, Option.map_some]
  · rw [outline?, fixed, Option.map_some, left, right, equal]

/-- An empty group and the chain of a first condition are not written, nor is the table of a column where there is only
one. -/
theorem outline_of_generate_filtered : ∃ outline,
    (({} : Query).runAll [.setDialect .ansi, .select "users u" [⟨"id", some "key"⟩] true, .openGroup .and,
      .closeGroup, .filter .or "u.name" (.typed .eq) (.text "it's")]).outline? = some outline ∧
    (({} : Query).runAll [.select "users u" [⟨"id", some "key"⟩] true,
      .filter .and "name" (.spelled "=") (.text "it's"), .setDialect .ansi]).outline? = some outline :=
  outline_of_generate
    [.setDialect .ansi, .select "users u" [⟨"id", some "key"⟩] true, .openGroup .and,
      .closeGroup, .filter .or "u.name" (.typed .eq) (.text "it's")]
    [.select "users u" [⟨"id", some "key"⟩] true, .filter .and "name" (.spelled "=") (.text "it's"), .setDialect .ansi]
    "SELECT DISTINCT \"id\" AS \"key\" FROM \"users\" AS \"u\" WHERE \"name\" = 'it''s'"
    ⟨by decide +kernel, by decide +kernel, by decide +kernel, by decide +kernel⟩
    ⟨by decide +kernel, by decide +kernel, by decide +kernel, by decide +kernel⟩
    (by decide +kernel) (by decide +kernel)

end SqlSelect.Query

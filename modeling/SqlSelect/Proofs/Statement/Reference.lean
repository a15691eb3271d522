import SqlSelect.Statement.Render
import SqlSelect.Proofs.Dialect.Identifier
import SqlSelect.Proofs.Registry.Alias
import SqlSelect.Proofs.Registry.Holder

namespace SqlSelect

namespace Registry

theorem WellNamed.id_of_alias (registry : Registry) (named : registry.WellNamed) (first second : Nat)
    (known : first < registry.size) (held : second < registry.size)
    (same : (registry.table first).aliasName = (registry.table second).aliasName) : first = second :=
  named.id_unique registry second first _ _ (registry.get?_of_lt second held) (registry.get?_of_lt first known) same

end Registry

namespace Scope

/-- Columns go without their tables only where there is one table, unless the policy is to leave all tables out. -/
theorem size_of_unqualified (dialect : Dialect) (qualify : Qualify) (tables : Registry) (policy : qualify ≠ .never)
    (bare : (Scope.of dialect qualify tables).qualified = false) : tables.size ≤ 1 := by
  cases qualify with
  | auto => simpa [Scope.of] using bare
  | always => cases bare
  | never => exact absurd rfl policy

variable (scope : Scope)

theorem columnTextWith_of_plain (qualified : Bool) (column : Column)
    (plain : Text.isPlainIdentifier column.name = true) :
    scope.columnTextWith qualified column =
      if qualified then scope.dialect.qualifyColumn (scope.tables.table column.table).aliasName column.name
      else scope.dialect.quoteIdent column.name := by
  rw [columnTextWith, plain]
  rfl

theorem columnTextWith_inj (named : scope.tables.WellNamed) (first second : Bool) (left right : Column)
    (owner : left.table < scope.tables.size) (known : right.table < scope.tables.size)
    (single : first = false → scope.tables.size ≤ 1) (plain : Text.isPlainIdentifier left.name = true)
    (simple : Text.isPlainIdentifier right.name = true)
    (same : scope.columnTextWith first left = scope.columnTextWith second right) :
    left.table = right.table ∧ left.name = right.name := by
  rw [scope.columnTextWith_of_plain first left plain, scope.columnTextWith_of_plain second right simple] at same
  cases first with
  | false =>
    have one := single rfl
    have tables : left.table = right.table := by omega
    cases second with
    | false => exact ⟨tables, scope.dialect.quoteIdent_injective same⟩
    | true => exact absurd same (scope.dialect.quoteIdent_ne_qualifyColumn _ _ _ plain)
  | true =>
    cases second with
    | false => exact absurd same.symm (scope.dialect.quoteIdent_ne_qualifyColumn _ _ _ simple)
    | true =>
      obtain ⟨aliases, names⟩ := scope.dialect.qualifyColumn_inj _ _ _ _ plain simple same
      exact ⟨named.id_of_alias scope.tables left.table right.table owner known aliases, names⟩

end Scope
end SqlSelect

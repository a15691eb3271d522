import SqlSelect.Dialect
import SqlSelect.Text.Ascii
import SqlSelect.Text.Blank
import SqlSelect.Proofs.Text.Decodable

namespace SqlSelect

namespace Text

theorem append_cons_inj_of_last (mark : Char) (left first right second : List Char) (clear : mark ∉ right)
    (free : mark ∉ second) (same : left ++ mark :: right = first ++ mark :: second) :
    left = first ∧ right = second := by
  have reversed : right.reverse ++ mark :: left.reverse = second.reverse ++ mark :: first.reverse := by
    simpa using congrArg List.reverse same
  have parts := (cut_eq_some_iff mark _ right.reverse left.reverse).mpr ⟨rfl, by simpa using clear⟩
  rw [reversed, (cut_eq_some_iff mark _ second.reverse first.reverse).mpr ⟨rfl, by simpa using free⟩] at parts
  simp only [Option.some.injEq, Prod.mk.injEq, List.reverse_inj] at parts
  exact ⟨parts.2.symm, parts.1.symm⟩

theorem enclose_injective (mark : Char) (x y : String) (same : enclose mark x.toList = enclose mark y.toList) :
    x = y := by
  have texts : quoted mark x ++ [] = quoted mark y ++ [] := by
    simpa [quoted] using congrArg String.toList same
  exact (decodable_quoted mark x y [] [] (by simp) (by simp) texts).1

theorem mem_double (mark c : Char) (cs : List Char) (member : c ∈ double mark cs) : c ∈ cs := by
  rw [← List.count_pos_iff, count_double] at member
  exact List.count_pos_iff.mp (Nat.pos_of_mul_pos_left member)

theorem not_mem_enclose (mark c : Char) (cs : List Char) (other : c ≠ mark) (absent : c ∉ cs) :
    c ∉ (enclose mark cs).toList := by
  rw [toList_enclose]
  intro member
  have inside : c ∈ double mark cs := by simpa [other] using member
  exact absent (mem_double mark c cs inside)

theorem not_mem_of_isPlainIdentifier (name : String) (plain : isPlainIdentifier name = true) :
    '.' ∉ name.toList := by
  intro member
  simp only [isPlainIdentifier, Bool.and_eq_true, List.all_eq_true] at plain
  have allowed := plain.2 '.' member
  revert allowed
  decide

end Text

namespace Dialect

variable (dialect : Dialect)

theorem quoteIdent_injective : Function.Injective dialect.quoteIdent := by
  intro x y same
  cases dialect with
  | plain => exact same
  | ansi => exact Text.enclose_injective _ x y same
  | mysql => exact Text.enclose_injective _ x y same

theorem not_mem_quoteIdent (name : String) (plain : Text.isPlainIdentifier name = true) :
    '.' ∉ (dialect.quoteIdent name).toList := by
  have absent := Text.not_mem_of_isPlainIdentifier name plain
  cases dialect with
  | plain => exact absent
  | ansi => exact Text.not_mem_enclose _ '.' _ (by decide) absent
  | mysql => exact Text.not_mem_enclose _ '.' _ (by decide) absent

theorem toList_qualifyColumn (table column : String) : (dialect.qualifyColumn table column).toList =
    (dialect.quoteIdent table).toList ++ '.' :: (dialect.quoteIdent column).toList := by
  have dot : ".".toList = ['.'] := by rfl
  rw [qualifyColumn, String.toList_append, String.toList_append, dot, List.append_assoc, List.singleton_append]

theorem qualifyColumn_inj (table other column second : String) (plain : Text.isPlainIdentifier column = true)
    (simple : Text.isPlainIdentifier second = true)
    (same : dialect.qualifyColumn table column = dialect.qualifyColumn other second) :
    table = other ∧ column = second := by
  have texts := congrArg String.toList same
  rw [toList_qualifyColumn, toList_qualifyColumn] at texts
  obtain ⟨tables, columns⟩ := Text.append_cons_inj_of_last '.' _ _ _ _
    (dialect.not_mem_quoteIdent column plain) (dialect.not_mem_quoteIdent second simple) texts
  exact ⟨dialect.quoteIdent_injective (String.toList_inj.mp tables),
    dialect.quoteIdent_injective (String.toList_inj.mp columns)⟩

theorem quoteIdent_ne_qualifyColumn (name table column : String) (plain : Text.isPlainIdentifier name = true) :
    dialect.quoteIdent name ≠ dialect.qualifyColumn table column := by
  intro same
  apply dialect.not_mem_quoteIdent name plain
  rw [same, toList_qualifyColumn]
  simp

end Dialect
end SqlSelect

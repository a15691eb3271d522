import SqlSelect.Proofs.Dialect.Identifier

namespace SqlSelect

namespace Text

/-- What a backslash and the character behind it stand for in a MySQL string. A percent sign and an underscore, which are
wildcards in patterns, keep the backslash. -/
def escapeValue : Char → List Char
  | '0' => ['\x00']
  | 'b' => ['\x08']
  | 'n' => ['\n']
  | 'r' => ['\r']
  | 't' => ['\t']
  | 'Z' => ['\x1a']
  | '%' => ['\\', '%']
  | '_' => ['\\', '_']
  | c => [c]

def takeEscaped? (mark : Char) : List Char → Option (List Char × List Char)
  | [] => none
  | c :: cs =>
    if c = '\\' then
      match cs with
      | [] => none
      | d :: ds => (takeEscaped? mark ds).map fun (text, rest) => (escapeValue d ++ text, rest)
    else if c = mark then
      match cs with
      | [] => some ([], [])
      | d :: ds =>
        if d = mark then (takeEscaped? mark ds).map fun (text, rest) => (mark :: text, rest)
        else some ([], d :: ds)
    else (takeEscaped? mark cs).map fun (text, rest) => (c :: text, rest)

section

variable (mark : Char) (apart : mark ≠ '\\')

include apart

theorem takeEscaped?_mark (rest : List Char) (lone : rest.head? ≠ some mark) :
    takeEscaped? mark (mark :: rest) = some ([], rest) := by
  cases rest with
  | nil => simp [takeEscaped?, apart]
  | cons d rest =>
    have other : d ≠ mark := by simpa using lone
    simp [takeEscaped?, apart, other]

theorem takeEscaped?_double (cs rest : List Char) (lone : rest.head? ≠ some mark) :
    takeEscaped? mark (double mark (double '\\' cs) ++ mark :: rest) = some (cs, rest) := by
  induction cs with
  | nil => exact takeEscaped?_mark mark apart rest lone
  | cons c cs ih =>
    by_cases escape : c = '\\'
    -- the two backslashes are read together, so neither escapes a mark that was written behind them
    · have written : double mark (double '\\' (c :: cs)) = '\\' :: '\\' :: double mark (double '\\' cs) := by
        simp [double, escape, apart.symm]
      have one : escapeValue '\\' = ['\\'] := by rfl
      rw [written]
      simp [takeEscaped?, ih, one, escape]
    · by_cases same : c = mark
      · have written : double mark (double '\\' (c :: cs)) = mark :: mark :: double mark (double '\\' cs) := by
          simp [double, same, apart]
        rw [written]
        simp [takeEscaped?, ih, apart, same]
      · have written : double mark (double '\\' (c :: cs)) = c :: double mark (double '\\' cs) := by
          simp [double, escape, same]
        rw [written, List.cons_append]
        unfold takeEscaped?
        simp [ih, escape, same]

end

def readFrom? (mark : Char) (take : List Char → Option (List Char × List Char)) (sql : String) :
    Option (String × String) :=
  match sql.toList with
  | [] => none
  | c :: cs => if c = mark then (take cs).map fun (text, rest) => (String.ofList text, String.ofList rest) else none

def ReadBy (read : String → Option (String × String)) (mark : Char) (write : String → String) : Prop :=
  ∀ s t, t.toList.head? ≠ some mark → read (write s ++ t) = some (s, t)

theorem readBy_enclose (mark : Char) (take : List Char → Option (List Char × List Char))
    (inside : List Char → List Char)
    (taken : ∀ cs rest, rest.head? ≠ some mark → take (double mark (inside cs) ++ mark :: rest) = some (cs, rest)) :
    ReadBy (readFrom? mark take) mark fun s => enclose mark (inside s.toList) := by
  intro s t lone
  have found := taken s.toList t.toList lone
  simp [readFrom?, found]

theorem ReadBy.injective {read : String → Option (String × String)} {mark : Char} {write : String → String}
    (readable : ReadBy read mark write) : Function.Injective write := by
  intro x y same
  have first := readable x "" (by simp)
  rw [same, readable y "" (by simp)] at first
  simpa using first.symm

end Text

namespace Dialect

def readString? : Dialect → String → Option (String × String)
  | mysql => Text.readFrom? '\x27' (Text.takeEscaped? '\x27')
  | _ => Text.readFrom? '\x27' (Text.takeQuoted? '\x27')

def identMark? : Dialect → Option Char
  | plain => none
  | ansi => some '\x22'
  | mysql => some '\x60'

def readIdent? (mark : Char) : String → Option (String × String) := Text.readFrom? mark (Text.takeQuoted? mark)

variable (dialect : Dialect)

theorem readBy_renderString : Text.ReadBy dialect.readString? '\x27' dialect.renderString := by
  cases dialect with
  | mysql => exact Text.readBy_enclose _ _ _ (Text.takeEscaped?_double _ (by decide))
  | plain => exact Text.readBy_enclose _ _ id (Text.takeQuoted?_double _)
  | ansi => exact Text.readBy_enclose _ _ id (Text.takeQuoted?_double _)

theorem readBy_quoteIdent (mark : Char) (marked : dialect.identMark? = some mark) :
    Text.ReadBy (readIdent? mark) mark dialect.quoteIdent := by
  cases dialect with
  | plain => cases marked
  | ansi =>
    cases marked
    exact Text.readBy_enclose _ _ id (Text.takeQuoted?_double _)
  | mysql =>
    cases marked
    exact Text.readBy_enclose _ _ id (Text.takeQuoted?_double _)

/-- Strings and identifiers are read as they were written, and what stands behind them is left, if it does not start with
the mark. So no two of them are written alike. -/
theorem quoting_closed :
    (∀ (dialect : Dialect) (s t : String), t.toList.head? ≠ some '\x27' →
        dialect.readString? (dialect.renderString s ++ t) = some (s, t)) ∧
      (∀ (dialect : Dialect) (mark : Char) (s t : String), dialect.identMark? = some mark →
        t.toList.head? ≠ some mark → readIdent? mark (dialect.quoteIdent s ++ t) = some (s, t)) ∧
      (∀ dialect : Dialect, Function.Injective dialect.renderString) ∧
      ∀ dialect : Dialect, Function.Injective dialect.quoteIdent := by
  refine ⟨readBy_renderString, ?_, ?_, quoteIdent_injective⟩
  · intro dialect mark s t marked lone
    exact dialect.readBy_quoteIdent mark marked s t lone
  · intro dialect
    exact dialect.readBy_renderString.injective

/-- Backslashes and quotes next to each other and at both ends, with an escaped quote behind the string. -/
theorem quoting_closed_mysql :
    let s := "\\'\\ '\\"
    let t := "\\' OR 1=1"
    t.toList.head? ≠ some '\x27' ∧ mysql.renderString s = "'\\\\''\\\\ ''\\\\'" ∧
      mysql.readString? (mysql.renderString s ++ t) = some (s, t) ∧
      mysql.identMark? = some '\x60' ∧
      readIdent? '\x60' (mysql.quoteIdent "a`.`b" ++ ".`c`") = some ("a`.`b", ".`c`") := by
  intro s t
  have lone : t.toList.head? ≠ some '\x27' := by decide
  obtain ⟨strings, idents, _⟩ := quoting_closed
  exact ⟨lone, by decide, strings mysql s t lone, rfl, idents mysql '\x60' _ _ rfl (by decide)⟩

end Dialect
end SqlSelect

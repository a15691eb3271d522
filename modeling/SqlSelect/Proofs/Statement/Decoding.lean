import SqlSelect.Proofs.Statement.Written
import SqlSelect.Proofs.Text.Keyword

namespace SqlSelect

open Text (Decodable Follows Apart quoted decodable_quoted decodable_integer follows_append follows_nil NoDigit)

def Json.isScalar : Json → Bool
  | .null | .bool _ | .integer _ | .text _ => true
  | .real _ | .array _ | .object _ => false

namespace Outline

def breaks : List String := [" ", ",", ")"]

def clauses : List String := [" FROM ", " JOIN ", " WHERE ", " GROUP BY "]

def entryEnds : List String := ", " :: " ON " :: clauses

def listEnds : List String := [")", " GROUP BY "]

def filterEnds : List String := " AND " :: " OR " :: listEnds

variable {r s : List Char}

theorem decodable_name : Decodable quotedName (Follows entryEnds) :=
  (decodable_quoted '\x22').weaken fun _ follows => follows.head_ne '\x22' (by decide)

theorem decodable_alias : Decodable aliasText (Follows entryEnds) := by
  apply decodable_name.optional
  · exact fun _ follows => follows
  · decide
  · decide

theorem decodable_label : Decodable Label.text (Follows breaks) := by
  have closed : ∀ rest, Follows breaks rest → rest.head? ≠ some '\x22' :=
    fun rest follows => follows.head_ne '\x22' (by decide)
  have undotted : ∀ rest, ¬ Follows breaks (".".toList ++ rest) := by
    intro rest follows
    have clear : ¬ ".".toList <+: ".".toList ++ rest := follows.not_prefix (by decide) (by decide)
    exact clear (List.prefix_append _ _)
  have dotted : ∀ rest, (".".toList ++ rest).head? ≠ some '\x22' := fun rest => by simp
  rintro ⟨_ | first, name⟩ ⟨_ | second, other⟩ r s left right same <;>
    simp only [Label.text, Option.elim_none, Option.elim_some, List.nil_append, List.append_assoc] at same
  · obtain ⟨rfl, rest⟩ := decodable_quoted '\x22' _ _ _ _ (closed r left) (closed s right) same
    exact ⟨rfl, rest⟩
  · obtain ⟨-, rest⟩ := decodable_quoted '\x22' _ _ _ _ (closed r left) (dotted _) same
    rw [rest] at left
    exact absurd left (undotted _)
  · obtain ⟨-, rest⟩ := decodable_quoted '\x22' _ _ _ _ (dotted _) (closed s right) same
    rw [← rest] at right
    exact absurd right (undotted _)
  · obtain ⟨rfl, rest⟩ := decodable_quoted '\x22' _ _ _ _ (dotted _) (dotted _) same
    obtain ⟨rfl, behind⟩ := decodable_quoted '\x22' _ _ _ _ (closed r left) (closed s right)
      (List.append_cancel_left rest)
    exact ⟨rfl, behind⟩

theorem decodable_entry : Decodable entryText (Follows entryEnds) := by
  apply decodable_label.pair decodable_alias
  intro aliasName r follows
  exact (follows.optional aliasName).mono (by decide)

theorem written_injective (x y : TableName) (same : (x.basename, x.written) = (y.basename, y.written)) :
    x = y := by
  obtain ⟨basename, aliasName⟩ := x
  obtain ⟨other, second⟩ := y
  simp only [TableName.written, Prod.mk.injEq] at same
  grind

theorem decodable_table : Decodable TableName.text (Follows entryEnds) := by
  have closed : ∀ rest, Follows (" AS " :: entryEnds) rest → rest.head? ≠ some '\x22' :=
    fun rest follows => follows.head_ne '\x22' (by decide)
  have both := (decodable_quoted '\x22').pair decodable_alias fun aliasName r follows =>
    closed _ (follows.optional aliasName)
  intro x y r s left right same
  obtain ⟨equal, rest⟩ := both (x.basename, x.written) (y.basename, y.written) r s left right same
  exact ⟨written_injective x y equal, rest⟩

theorem decodable_joint : Decodable JointOutline.text (Follows [" JOIN ", " WHERE ", " GROUP BY "]) := by
  rintro ⟨table, first, second⟩ ⟨other, third, fourth⟩ r s left right same
  simp only [JointOutline.text, List.append_assoc] at same
  have onward : ∀ rest, Follows entryEnds (" ON ".toList ++ rest) := follows_append (by decide)
  have spaced : ∀ rest, Follows breaks (" = ".toList ++ rest) := by
    intro rest
    have equated : Follows [" = "] (" = ".toList ++ rest) := follows_append (by decide) rest
    exact equated.mono (by decide)
  obtain ⟨rfl, columns⟩ := decodable_table _ _ _ _ (onward _) (onward _) same
  obtain ⟨rfl, column⟩ := decodable_label _ _ _ _ (spaced _) (spaced _) (List.append_cancel_left columns)
  obtain ⟨rfl, rest⟩ := decodable_label _ _ _ _ (left.mono (by decide)) (right.mono (by decide))
    (List.append_cancel_left column)
  exact ⟨rfl, rest⟩

theorem decodable_operation : Decodable (fun operation : Operation => operation.keywords.toList)
    (Follows [" *", " \""]) := by
  have apart : ∀ rest, ¬ Follows [" *", " \""] (" DISTINCT".toList ++ rest) := by
    intro rest follows
    exact follows.not_prefix (by decide) (by decide) (List.prefix_append _ _)
  have split : ∀ rest, (Operation.select true).keywords.toList ++ rest =
      "SELECT".toList ++ (" DISTINCT".toList ++ rest) := fun rest => rfl
  rintro ⟨_ | _⟩ ⟨_ | _⟩ r s left right same
  · exact ⟨rfl, List.append_cancel_left same⟩
  · rw [split] at same
    rw [List.append_cancel_left same] at left
    exact absurd left (apart s)
  · rw [split] at same
    rw [← List.append_cancel_left same] at right
    exact absurd right (apart r)
  · exact ⟨rfl, List.append_cancel_left same⟩

theorem label_head (label : Label (Option String)) : ∃ rest, label.text = "\"".toList ++ rest := by
  obtain ⟨_ | owner, name⟩ := label
  · exact ⟨_, rfl⟩
  · exact ⟨_, rfl⟩

theorem decodable_entries : Decodable entriesText (Follows clauses) := by
  have others : Decodable entryText (Follows (", " :: clauses)) :=
    decodable_entry.weaken fun rest follows => follows.mono (by decide)
  have row := others.repeated (by decide) (by decide)
  have starred : ∀ entry entries (r s : List Char), " *".toList ++ r ≠ entriesText (entry :: entries) ++ s := by
    intro entry entries r s same
    obtain ⟨rest, head⟩ := label_head entry.1
    simp [entriesText, entryText, head] at same
  rintro (_ | ⟨x, xs⟩) (_ | ⟨y, ys⟩) r s left right same
  · exact ⟨rfl, List.append_cancel_left same⟩
  · exact absurd same (starred y ys r s)
  · exact absurd same.symm (starred x xs s r)
  · simp only [entriesText, List.append_assoc] at same
    obtain ⟨rfl, later⟩ := others _ _ _ _ (left.repeated xs) (right.repeated ys) (List.append_cancel_left same)
    obtain ⟨rfl, rest⟩ := row _ _ _ _ left right later
    exact ⟨rfl, rest⟩

theorem sql_prefix (x y : Operator) (start : x.sql.toList ++ " ".toList <+: y.sql.toList ++ " ".toList) :
    x = y ∨ x = .is ∧ y = .isNot := by
  revert start
  cases x <;> cases y <;> decide

theorem decodable_operator : Decodable (fun operator : Operator => operator.sql.toList ++ " ".toList)
    (¬ "NOT ".toList <+: ·) := by
  -- of two operators only `IS` begins another one
  have longer : ∀ (x y : Operator) (r s : List Char), ¬ "NOT ".toList <+: r →
      x.sql.toList ++ " ".toList ++ r = y.sql.toList ++ " ".toList ++ s →
      x.sql.toList ++ " ".toList <+: y.sql.toList ++ " ".toList → x = y := by
    intro x y r s clear same start
    rcases sql_prefix x y start with equal | ⟨rfl, rfl⟩
    · exact equal
    · have rest : r = "NOT ".toList ++ s := List.append_cancel_left same
      rw [rest] at clear
      exact absurd (List.prefix_append _ _) clear
  intro x y r s left right same
  have equal : x = y := by
    have first : x.sql.toList ++ " ".toList <+: y.sql.toList ++ " ".toList ++ s := by
      rw [← same]
      exact List.prefix_append _ _
    rcases List.prefix_or_prefix_of_prefix first (List.prefix_append _ s) with start | start
    · exact longer x y r s left same start
    · exact (longer y x s r right same.symm start).symm
  subst equal
  exact ⟨rfl, List.append_cancel_left same⟩

def tag : Json → Char
  | .null => 'N'
  | .bool value => if value then 't' else 'f'
  | .integer _ => '-'
  | _ => '\x27'

theorem literal_head (value : Json) (scalar : value.isScalar = true) :
    ∃ c rest, literalText value = c :: rest ∧ (if c.isDigit then '-' else c) = tag value := by
  cases value with
  | null => exact ⟨'N', _, rfl, rfl⟩
  | bool value =>
    cases value with
    | false => exact ⟨'f', _, rfl, rfl⟩
    | true => exact ⟨'t', _, rfl, rfl⟩
  | integer value =>
    obtain ⟨c, digits, written, digit⟩ := Text.toDigits_head value.toNat
    have text : literalText (.integer value) = (toString value).toList := rfl
    rw [text, Text.toList_integer]
    split
    · exact ⟨c, digits, written, if_pos digit⟩
    · exact ⟨'-', _, rfl, rfl⟩
  | text value => exact ⟨'\x27', _, Text.toList_enclose _ _, rfl⟩
  | real value => cases scalar
  | array items => cases scalar
  | object fields => cases scalar

theorem tag_cases (x y : Json) (left : x.isScalar = true) (right : y.isScalar = true) (same : tag x = tag y) :
    x = y ∨ (∃ m n, x = .integer m ∧ y = .integer n) ∨ ∃ first second, x = .text first ∧ y = .text second := by
  cases x <;> cases y <;> simp_all [tag, Json.isScalar]
  all_goals grind

theorem decode_literal (x y : Json) (left : x.isScalar = true) (right : y.isScalar = true) (r s : List Char)
    (behind : Follows breaks r) (after : Follows breaks s) (same : literalText x ++ r = literalText y ++ s) :
    x = y ∧ r = s := by
  have tags : tag x = tag y := by
    obtain ⟨c, first, head, opening⟩ := literal_head x left
    obtain ⟨d, second, other, opened⟩ := literal_head y right
    rw [head, other, List.cons_append, List.cons_append, List.cons.injEq] at same
    rw [← opening, ← opened, same.1]
  rcases tag_cases x y left right tags with rfl | ⟨m, n, rfl, rfl⟩ | ⟨first, second, rfl, rfl⟩
  · exact ⟨rfl, List.append_cancel_left same⟩
  · obtain ⟨rfl, rest⟩ := decodable_integer m n r s (behind.noDigit (by decide)) (after.noDigit (by decide)) same
    exact ⟨rfl, rest⟩
  · have written : ∀ value, literalText (.text value) = quoted '\x27' value :=
      fun value => Text.toList_enclose _ _
    rw [written, written] at same
    obtain ⟨rfl, rest⟩ := decodable_quoted '\x27' first second r s (behind.head_ne _ (by decide))
      (after.head_ne _ (by decide)) same
    exact ⟨rfl, rest⟩

theorem decode_operand (operator : Operator) (x y : Json) (left : x.isScalar = true) (right : y.isScalar = true)
    (r s : List Char) (behind : Follows breaks r) (after : Follows breaks s)
    (same : operandText operator x ++ r = operandText operator y ++ s) : x = y ∧ r = s := by
  unfold operandText at same
  cases list : operator.takesList with
  | false =>
    simp only [list, Bool.false_eq_true, if_false] at same
    exact decode_literal x y left right r s behind after same
  | true =>
    simp only [list, if_true, List.append_assoc] at same
    have closing : ∀ rest, Follows breaks (")".toList ++ rest) := follows_append (by decide)
    obtain ⟨rfl, rest⟩ := decode_literal x y left right _ _ (closing r) (closing s) (List.append_cancel_left same)
    exact ⟨rfl, List.append_cancel_left rest⟩

/-- No value can be taken for the second word of `IS NOT`. -/
theorem operand_clear (operator : Operator) (value : Json) (scalar : value.isScalar = true) (rest : List Char) :
    ¬ "NOT ".toList <+: operandText operator value ++ rest := by
  rintro ⟨tail, same⟩
  unfold operandText at same
  cases list : operator.takesList with
  | true => simp [list] at same
  | false =>
    simp only [list, Bool.false_eq_true, if_false] at same
    obtain ⟨c, others, head, opening⟩ := literal_head value scalar
    rw [head] at same
    obtain ⟨rfl, after⟩ : 'N' = c ∧ "OT ".toList ++ tail = others ++ rest := by simpa using same
    have tagged : tag value = 'N' := opening.symm
    have null : value = .null := by
      rcases tag_cases value .null scalar rfl tagged with equal | ⟨_, _, _, other⟩ | ⟨_, _, _, other⟩
      · exact equal
      · cases other
      · cases other
    have spelled : others = "ULL".toList := by
      rw [null] at head
      simpa [literalText, Dialect.renderLiteral] using head.symm
    rw [spelled] at after
    simp at after

theorem follows_others (others : List (Chain × Filter (Option String))) (rest : List Char)
    (follows : Follows listEnds rest) : Follows filterEnds (Filter.othersText others ++ rest) := by
  rcases others with _ | ⟨⟨chain, filter⟩, others⟩
  · exact (follows.cons _).cons _
  · have known : chain.link ∈ filterEnds := by cases chain <;> decide
    rw [Filter.othersText, List.append_assoc, List.append_assoc]
    exact follows_append known _

theorem not_ended (chain : Chain) (filter : Filter (Option String))
    (others : List (Chain × Filter (Option String))) (rest : List Char) :
    ¬ Follows listEnds (Filter.othersText ((chain, filter) :: others) ++ rest) := by
  intro follows
  have apart : Apart chain.link listEnds := by cases chain <;> decide
  have written : chain.link ≠ "" := by cases chain <;> decide
  apply follows.not_prefix apart written
  rw [Filter.othersText, List.append_assoc, List.append_assoc]
  exact List.prefix_append _ _

theorem link_cancel (x y : Chain) (r s : List Char) (same : x.link.toList ++ r = y.link.toList ++ s) :
    x = y ∧ r = s := by
  cases x <;> cases y
  · exact ⟨rfl, List.append_cancel_left same⟩
  · simp [Chain.link, Chain.keyword] at same
  · simp [Chain.link, Chain.keyword] at same
  · exact ⟨rfl, List.append_cancel_left same⟩

theorem not_group (column : Label (Option String)) (operator : Operator) (value : Json) (first : Filter (Option String))
    (others : List (Chain × Filter (Option String))) (r s : List Char) :
    (Filter.comparison column operator value).text ++ r ≠ (Filter.group first others).text ++ s := by
  intro same
  -- a comparison begins with the quote of its column, a group with a parenthesis
  obtain ⟨rest, head⟩ := label_head column
  simp [Filter.text, head] at same

mutual
/-- A condition and what follows it are known from the text: a name or a string cannot be taken for the end of the
condition, nor a group for a list of values. -/
theorem decode_filter : ∀ (x y : Filter (Option String)) (r s : List Char),
    (∀ value ∈ x.values, value.isScalar = true) → (∀ value ∈ y.values, value.isScalar = true) →
    Follows filterEnds r → Follows filterEnds s → x.text ++ r = y.text ++ s → x = y ∧ r = s
  | .comparison column operator value, .comparison other second item, r, s, left, right, behind, after, same => by
    simp only [Filter.text, List.append_assoc] at same
    have spaced : ∀ rest, Follows breaks (" ".toList ++ rest) := follows_append (by decide)
    obtain ⟨rfl, operators⟩ := decodable_label _ _ _ _ (spaced _) (spaced _) same
    have compared := List.append_cancel_left operators
    have first := left value (by simp [Filter.values])
    have last := right item (by simp [Filter.values])
    rw [← List.append_assoc, ← List.append_assoc second.sql.toList] at compared
    obtain ⟨rfl, operands⟩ := decodable_operator operator second _ _ (operand_clear operator value first r)
      (operand_clear second item last s) compared
    obtain ⟨rfl, rest⟩ := decode_operand operator value item first last r s (behind.mono (by decide))
      (after.mono (by decide)) operands
    exact ⟨rfl, rest⟩
  | .comparison column operator value, .group first others, r, s, _, _, _, _, same =>
    absurd same (not_group column operator value first others r s)
  | .group first others, .comparison column operator value, r, s, _, _, _, _, same =>
    absurd same.symm (not_group column operator value first others s r)
  | .group first others, .group second remaining, r, s, left, right, behind, after, same => by
    simp only [Filter.text, List.append_assoc] at same
    simp only [Filter.values, List.mem_append, or_imp, forall_and] at left right
    -- inside the group the text goes on with the next condition or with the parenthesis
    have closing : ∀ rest, Follows listEnds (")".toList ++ rest) := follows_append (by decide)
    obtain ⟨rfl, tail⟩ := decode_filter first second _ _ left.1 right.1 (follows_others others _ (closing r))
      (follows_others remaining _ (closing s)) (List.append_cancel_left same)
    obtain ⟨rfl, rest⟩ := decode_others others remaining _ _ left.2 right.2 (closing r) (closing s) tail
    exact ⟨rfl, List.append_cancel_left rest⟩

theorem decode_others : ∀ (xs ys : List (Chain × Filter (Option String))) (r s : List Char),
    (∀ value ∈ Filter.valuesOf xs, value.isScalar = true) →
    (∀ value ∈ Filter.valuesOf ys, value.isScalar = true) →
    Follows listEnds r → Follows listEnds s → Filter.othersText xs ++ r = Filter.othersText ys ++ s →
      xs = ys ∧ r = s
  | [], [], r, s, _, _, _, _, same => ⟨rfl, same⟩
  | [], (chain, filter) :: others, r, s, _, _, behind, _, same => by
    rw [Filter.othersText, List.nil_append] at same
    rw [same] at behind
    exact absurd behind (not_ended chain filter others s)
  | (chain, filter) :: others, [], r, s, _, _, _, after, same => by
    rw [Filter.othersText.eq_1, List.nil_append] at same
    rw [← same] at after
    exact absurd after (not_ended chain filter others r)
  | (chain, first) :: others, (second, filter) :: remaining, r, s, left, right, behind, after, same => by
    simp only [Filter.valuesOf, List.mem_append, or_imp, forall_and] at left right
    simp only [Filter.othersText, List.append_assoc] at same
    obtain ⟨rfl, filters⟩ := link_cancel chain second _ _ same
    obtain ⟨rfl, tail⟩ := decode_filter first filter _ _ left.1 right.1 (follows_others others r behind)
      (follows_others remaining s after) filters
    obtain ⟨rfl, rest⟩ := decode_others others remaining r s left.2 right.2 behind after tail
    exact ⟨rfl, rest⟩
end

theorem decode_filters (x y : Option (Filter (Option String) × List (Chain × Filter (Option String))))
    (r s : List Char)
    (left : ∀ value ∈ x.elim [] (fun pair => pair.1.values ++ Filter.valuesOf pair.2), value.isScalar = true)
    (right : ∀ value ∈ y.elim [] (fun pair => pair.1.values ++ Filter.valuesOf pair.2), value.isScalar = true)
    (behind : Follows [" GROUP BY "] r) (after : Follows [" GROUP BY "] s)
    (same : x.elim [] (" WHERE ".toList ++ filtersText ·) ++ r =
      y.elim [] (" WHERE ".toList ++ filtersText ·) ++ s) : x = y ∧ r = s := by
  have apart : ∀ filters rest, ¬ Follows [" GROUP BY "] (" WHERE ".toList ++ filtersText filters ++ rest) := by
    intro filters rest follows
    have clear : ¬ " WHERE ".toList <+: _ := follows.not_prefix (by decide) (by decide)
    rw [List.append_assoc] at clear
    exact clear (List.prefix_append _ _)
  have closing : ∀ rest, Follows [" GROUP BY "] rest → Follows listEnds rest :=
    fun rest follows => follows.cons ")"
  rcases x with _ | ⟨first, others⟩ <;> rcases y with _ | ⟨second, remaining⟩ <;>
    simp only [Option.elim_none, Option.elim_some, List.nil_append] at same left right
  · exact ⟨rfl, same⟩
  · rw [same] at behind
    exact absurd behind (apart _ s)
  · rw [← same] at after
    exact absurd after (apart _ r)
  · simp only [List.mem_append, or_imp, forall_and] at left right
    simp only [filtersText, List.append_assoc] at same
    obtain ⟨rfl, tail⟩ := decode_filter first second _ _ left.1 right.1
      (follows_others others r (closing r behind)) (follows_others remaining s (closing s after))
      (List.append_cancel_left same)
    obtain ⟨rfl, rest⟩ := decode_others others remaining r s left.2 right.2 (closing r behind)
      (closing s after) tail
    exact ⟨rfl, rest⟩

theorem follows_entries (entries : List (Label (Option String) × Option String)) (rest : List Char) :
    Follows [" *", " \""] (entriesText entries ++ rest) := by
  cases entries with
  | nil => exact follows_append (by decide) rest
  | cons entry entries =>
    obtain ⟨tail, head⟩ := label_head entry.1
    rw [entriesText, entryText, head]
    simp only [List.append_assoc]
    exact .inr ⟨" \"", by decide, List.prefix_append _ _⟩

theorem decodable_front : Decodable
    (fun front : Operation × List (Label (Option String) × Option String) × Option TableName ×
        List (JointOutline (Option String)) =>
      front.1.keywords.toList ++ (entriesText front.2.1 ++
        (front.2.2.1.elim [] (" FROM ".toList ++ TableName.text ·) ++
          front.2.2.2.flatMap (" JOIN ".toList ++ JointOutline.text ·))))
    (Follows [" WHERE ", " GROUP BY "]) := by
  have base : Decodable (fun table : Option TableName => table.elim [] (" FROM ".toList ++ TableName.text ·))
      (Follows [" JOIN ", " WHERE ", " GROUP BY "]) :=
    decodable_table.optional (fun rest follows => follows.mono (by decide)) (by decide) (by decide)
  have joints := decodable_joint.repeated (by decide) (by decide)
  have tables := base.pair joints fun joints rest follows => follows.repeated joints
  have entries := decodable_entries.pair tables fun tables rest follows => by
    rw [List.append_assoc]
    exact (follows.repeated tables.2).optional tables.1
  apply decodable_operation.pair entries
  intro front rest _
  rw [List.append_assoc]
  exact follows_entries front.1 _

theorem decodable_grouping : Decodable
    (fun grouping : Option (Label String) =>
      grouping.elim [] fun column => " GROUP BY ".toList ++ (column.map some).text) (Follows []) := by
  have known : Decodable (fun column : Label String => (column.map some).text) (Follows breaks) := by
    rintro ⟨owner, name⟩ ⟨other, second⟩ r s left right same
    obtain ⟨equal, rest⟩ := decodable_label _ _ r s left right same
    simp only [Label.map, Label.mk.injEq, Option.some.injEq] at equal
    obtain ⟨rfl, rfl⟩ := equal
    exact ⟨rfl, rest⟩
  exact known.optional (fun rest follows => follows.mono (by decide)) (by decide) (by decide)

theorem follows_grouping (grouping : Option (Label String)) : Follows [" GROUP BY "]
    (grouping.elim [] (fun column => " GROUP BY ".toList ++ (column.map some).text) ++ []) :=
  (follows_nil []).optional grouping

end Outline

/-- An outline whose values are scalar is known from its text. -/
theorem Outline.eq_of_text (x y : Outline (Option String)) (left : ∀ value ∈ x.values, value.isScalar = true)
    (right : ∀ value ∈ y.values, value.isScalar = true) (same : x.text = y.text) : x = y := by
  obtain ⟨operation, entries, base, joints, filters, grouping⟩ := x
  obtain ⟨other, remaining, table, joined, compared, grouped⟩ := y
  have whole := congrArg (· ++ ([] : List Char)) same
  simp only [Outline.text, List.append_assoc] at whole
  have filtered : ∀ (filters : Option (Filter (Option String) × List (Chain × Filter (Option String))))
      (column : Option (Label String)), Follows [" WHERE ", " GROUP BY "] (filters.elim [] (" WHERE ".toList ++ filtersText ·) ++
        (column.elim [] (fun column => " GROUP BY ".toList ++ (column.map some).text) ++ [])) :=
    fun filters column => (follows_grouping column).optional filters
  obtain ⟨front, conditions⟩ := decodable_front (operation, entries, base, joints) (other, remaining, table, joined)
    _ _ (filtered filters grouping) (filtered compared grouped) (by simpa only [List.append_assoc] using whole)
  obtain ⟨rfl, columns⟩ := decode_filters filters compared _ _ left right (follows_grouping grouping)
    (follows_grouping grouped) conditions
  obtain ⟨rfl, -⟩ := decodable_grouping grouping grouped [] [] (follows_nil []) (follows_nil []) columns
  cases front
  rfl

end SqlSelect

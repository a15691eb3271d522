import SqlSelect.Proofs.Engine.Row
import SqlSelect.Proofs.Text.Decodable

namespace SqlSelect

open Text (NoDigit decodable_integer)

namespace CellType

mutual
/-- The cells of a type, with NULL at every level. Wider than the admission to a column: numbers have no bounds. -/
inductive Takes : CellType → Cell → Prop where
  | null (type : CellType) : Takes type .null
  | value (type : CellType) (cell : Cell) (value : Value type cell) : Takes type cell

inductive Value : CellType → Cell → Prop where
  | boolean (value : Bool) : Value .boolean (.boolean value)
  | integer (signed : Bool) (bits : Nat) (value : Int) : Value (.integer signed bits) (.integer value)
  | hugeInteger (value : Int) : Value .hugeInteger (.hugeInteger value)
  | single (value : Binary64) : Value .single (.real value)
  | double (value : Binary64) : Value .double (.real value)
  | decimal (precision scale : Nat) (unscaled : Int) : Value (.decimal precision scale) (.decimal unscaled scale)
  | text (value : String) : Value .text (.text value)
  | enumeration (members : List String) (value : String) : Value (.enumeration members) (.text value)
  | blob (bytes : List UInt8) : Value .blob (.blob bytes)
  | date (days : Int) : Value .date (.date days)
  | timestamp (unit : TimeUnit) (count : Int) : Value (.timestamp unit) (.moment unit count)
  | time (unit : TimeUnit) (count : Int) : Value .time (.moment unit count)
  | interval (months days nanos : Int) : Value .interval (.interval months days nanos)
  | list (item : CellType) (cells : List Cell) (each : ∀ cell ∈ cells, Takes item cell) :
      Value (.list item) (.list cells)
  | array (item : CellType) (cells : List Cell) (each : ∀ cell ∈ cells, Takes item cell) :
      Value (.array item cells.length) (.list cells)
  | record (fields : List (String × CellType)) (cells : List (String × Cell))
      (named : cells.map (·.1) = fields.map (·.1)) (each : ∀ pair ∈ fields.zip cells, Takes pair.1.2 pair.2.2) :
      Value (.record fields) (.record cells)
  | map (key value : CellType) (entries : List (Cell × Cell))
      (keys : ∀ entry ∈ entries, Takes key entry.1) (values : ∀ entry ∈ entries, Takes value entry.2) :
      Value (.map key value) (.map entries)
  | union (members : List (String × CellType)) (tag : String) (type : CellType) (inner : Cell)
      (known : (tag, type) ∈ members) (held : Takes type inner) : Value (.union members) (.member tag inner)
end

inductive Exact : CellType → Prop where
  | boolean : Exact .boolean
  | integer (signed : Bool) (bits : Nat) : Exact (.integer signed bits)
  | hugeInteger : Exact .hugeInteger
  | text : Exact .text
  | enumeration (members : List String) : Exact (.enumeration members)
  | blob : Exact .blob
  | date : Exact .date
  | timestamp (unit : TimeUnit) : Exact (.timestamp unit)
  | time : Exact .time
  | interval : Exact .interval
  | list (item : CellType) (exact : Exact item) : Exact (.list item)
  | array (item : CellType) (size : Nat) (exact : Exact item) : Exact (.array item size)
  | record (fields : List (String × CellType)) (distinct : (fields.map (·.1)).Nodup)
      (each : ∀ field ∈ fields, Exact field.2) : Exact (.record fields)
  | map (key value : CellType) (keys : Exact key) (values : Exact value) : Exact (.map key value)

end CellType

namespace Text

theorem integer_inj (first second : Int) (same : toString first = toString second) : first = second := by
  have closed : NoDigit [] := fun _ head => by cases head
  exact (decodable_integer first second [] [] closed closed (by simp only [same])).1

/-- A number is known from a text that goes on with a blank, and so is what stands behind that. -/
theorem integer_inj_of_blank (mark : String) (blank : mark.toList.head? = some ' ') (first second : Int)
    (rest other : String) (same : toString first ++ (mark ++ rest) = toString second ++ (mark ++ other)) :
    first = second ∧ rest = other := by
  have closed : ∀ behind : String, NoDigit (mark ++ behind).toList := by
    intro behind c head
    rw [String.toList_append, List.head?_append, blank] at head
    cases head
    rfl
  have written := congrArg String.toList same
  simp only [String.toList_append (s := toString _)] at written
  obtain ⟨numbers, marked⟩ := decodable_integer first second _ _ (closed rest) (closed other) written
  exact ⟨numbers, (String.append_right_inj mark).mp (String.toList_inj.mp marked)⟩

theorem hexDigits_inj (first second : List UInt8) (same : hexDigits first = hexDigits second) : first = second := by
  have read := hexBytes?_hexDigits first
  rw [same, hexBytes?_hexDigits second] at read
  exact (Option.some.inj read).symm

end Text

theorem TimeUnit.name_inj (unit other : TimeUnit) (same : unit.name = other.name) : unit = other := by
  cases unit <;> cases other <;> first | rfl | exact absurd same (by decide)

namespace Cell

theorem itemsJson_eq (items : List Cell) : itemsJson items = items.map toJson := by
  induction items with
  | nil => rfl
  | cons item items ih => rw [itemsJson, ih, List.map_cons]

theorem entriesJson_eq (entries : List (Cell × Cell)) :
    entriesJson entries = entries.map fun entry => .array [entry.1.toJson, entry.2.toJson] := by
  induction entries with
  | nil => rfl
  | cons entry entries ih => rw [entriesJson, ih, List.map_cons]

theorem fieldsJson_eq (fields : List (String × Cell)) :
    fieldsJson fields = fields.map fun field => (field.1, field.2.toJson) := by
  induction fields with
  | nil => rfl
  | cons field fields ih => rw [fieldsJson, ih, List.map_cons]

/-- A record becomes what a row of its fields does. -/
theorem toJson_record (fields : List (String × Cell)) :
    (record fields).toJson = .object (ResultSet.rowOfCells (fields.map (·.1)) (fields.map (·.2))) := by
  rw [toJson, Json.ofFields, ResultSet.rowOfCells_eq, fieldsJson_eq, List.map_map, List.zip_map']
  rfl

theorem eq_of_map_eq {α β : Type} (f : α → β) (xs ys : List α) (inj : ∀ x ∈ xs, ∀ y ∈ ys, f x = f y → x = y)
    (same : xs.map f = ys.map f) : xs = ys := by
  have lengths : xs.length = ys.length := by simpa using congrArg List.length same
  apply List.ext_getElem lengths
  intro position left right
  apply inj _ (List.getElem_mem left) _ (List.getElem_mem right)
  have here := congrArg (·[position]?) same
  simpa [left, right] using here

theorem hugeInteger_inj (value other : Int) (same : (hugeInteger value).toJson = (hugeInteger other).toJson) :
    value = other := by
  rw [toJson, toJson, Json.text.injEq] at same
  exact Text.integer_inj value other same

theorem blob_inj (bytes others : List UInt8) (same : (blob bytes).toJson = (blob others).toJson) : bytes = others := by
  rw [toJson, toJson, Json.text.injEq, String.ofList_inj] at same
  exact Text.hexDigits_inj bytes others same

theorem moment_inj (unit other : TimeUnit) (count later : Int)
    (same : (moment unit count).toJson = (moment other later).toJson) : unit = other ∧ count = later := by
  simp only [toJson, Json.text.injEq, String.append_assoc] at same
  obtain ⟨counts, behind⟩ := Text.integer_inj_of_blank " (" rfl count later _ _ same
  exact ⟨unit.name_inj other ((String.append_left_inj ")").mp behind), counts⟩

theorem interval_inj (months days nanos later further other : Int)
    (same : (interval months days nanos).toJson = (interval later further other).toJson) :
    months = later ∧ days = further ∧ nanos = other := by
  simp only [toJson, Json.text.injEq, String.append_assoc] at same
  obtain ⟨first, rest⟩ := Text.integer_inj_of_blank " months " rfl months later _ _ same
  obtain ⟨second, last⟩ := Text.integer_inj_of_blank " days " rfl days further _ _ rest
  exact ⟨first, second, Text.integer_inj nanos other ((String.append_left_inj " nanos").mp last)⟩

/-- Two records with the same fields, which differ, have the same JSON only field by field. -/
theorem record_inj (fields others : List (String × Cell)) (named : fields.map (·.1) = others.map (·.1))
    (distinct : (fields.map (·.1)).Nodup) (same : (record fields).toJson = (record others).toJson) (position : Nat)
    (left right : String × Cell) (held : fields[position]? = some left) (found : others[position]? = some right) :
    left.1 = right.1 ∧ left.2.toJson = right.2.toJson := by
  have keeps (fields : List (String × Cell)) (distinct : (fields.map (·.1)).Nodup) :=
    (ResultSet.holds_rowOfCells (fields.map (·.1)) (fields.map (·.2)) (by simp)).keeps _ _ _ distinct
  have name : left.1 = right.1 := by
    have here := congrArg (·[position]?) named
    simpa [held, found] using here
  have first := keeps fields distinct position left.1 left.2 (by simp [held]) (by simp [held])
  have second := keeps others (named ▸ distinct) position right.1 right.2 (by simp [found]) (by simp [found])
  rw [toJson_record, toJson_record, Json.object.injEq] at same
  rw [same, name, second] at first
  exact ⟨name, (Option.some.inj first).symm⟩

end Cell

namespace CellType

def Lossless (type : CellType) : Prop :=
  ∀ x y, type.Takes x → type.Takes y → x.toJson = y.toJson → x = y

theorem Lossless.list (item : CellType) (lossless : item.Lossless) (cells others : List Cell)
    (each : ∀ cell ∈ cells, item.Takes cell) (all : ∀ cell ∈ others, item.Takes cell)
    (same : (Cell.list cells).toJson = (Cell.list others).toJson) : cells = others := by
  rw [Cell.toJson, Cell.toJson, Json.array.injEq, Cell.itemsJson_eq, Cell.itemsJson_eq] at same
  exact Cell.eq_of_map_eq Cell.toJson cells others
    (fun x left y right => lossless x y (each x left) (all y right)) same

theorem Lossless.map (key value : CellType) (known : key.Lossless) (held : value.Lossless)
    (entries others : List (Cell × Cell)) (first : ∀ entry ∈ entries, key.Takes entry.1)
    (second : ∀ entry ∈ entries, value.Takes entry.2) (third : ∀ entry ∈ others, key.Takes entry.1)
    (fourth : ∀ entry ∈ others, value.Takes entry.2) (same : (Cell.map entries).toJson = (Cell.map others).toJson) :
    entries = others := by
  rw [Cell.toJson, Cell.toJson, Json.array.injEq, Cell.entriesJson_eq, Cell.entriesJson_eq] at same
  apply Cell.eq_of_map_eq _ entries others _ same
  intro x left y right pair
  simp only [Json.array.injEq, List.cons.injEq, and_true] at pair
  have keys : x.1 = y.1 := known x.1 y.1 (first x left) (third y right) pair.1
  have values : x.2 = y.2 := held x.2 y.2 (second x left) (fourth y right) pair.2
  exact Prod.ext keys values

theorem record_of_lossless (fields : List (String × CellType)) (distinct : (fields.map (·.1)).Nodup)
    (lossless : ∀ field ∈ fields, field.2.Lossless) (cells others : List (String × Cell))
    (named : cells.map (·.1) = fields.map (·.1)) (known : others.map (·.1) = fields.map (·.1))
    (each : ∀ pair ∈ fields.zip cells, pair.1.2.Takes pair.2.2)
    (all : ∀ pair ∈ fields.zip others, pair.1.2.Takes pair.2.2)
    (same : (Cell.record cells).toJson = (Cell.record others).toJson) : cells = others := by
  have width : cells.length = fields.length := by simpa using congrArg List.length named
  have other : others.length = fields.length := by simpa using congrArg List.length known
  have parts := Cell.record_inj cells others (named.trans known.symm) (named ▸ distinct) same
  apply List.ext_getElem (width.trans other.symm)
  intro position left right
  have held := List.getElem?_eq_getElem left
  have found := List.getElem?_eq_getElem right
  have field : fields[position]? = some fields[position] := List.getElem?_eq_getElem (width ▸ left)
  obtain ⟨name, json⟩ := parts position _ _ held found
  have first := each (_, _) (List.mem_of_getElem? (List.getElem?_zip_eq_some.mpr ⟨field, held⟩))
  have second := all (_, _) (List.mem_of_getElem? (List.getElem?_zip_eq_some.mpr ⟨field, found⟩))
  exact Prod.ext name (lossless _ (List.mem_of_getElem? field) _ _ first second json)

theorem Exact.toJson_ne_null (type : CellType) (exact : type.Exact) (cell : Cell) (value : type.Value cell) :
    cell.toJson ≠ .null := by
  cases exact <;> cases value <;> simp [Cell.toJson, Json.ofFields]

theorem Exact.lossless_of_values (type : CellType) (exact : type.Exact)
    (inj : ∀ x y, type.Value x → type.Value y → x.toJson = y.toJson → x = y) : type.Lossless := by
  intro x y left right same
  cases left with
  | null =>
    cases right with
    | null => rfl
    | value _ _ right => exact absurd same.symm (exact.toJson_ne_null type y right)
  | value _ _ left =>
    cases right with
    | null => exact absurd same (exact.toJson_ne_null type x left)
    | value _ _ right => exact inj x y left right same

theorem Exact.lossless (type : CellType) (exact : type.Exact) : type.Lossless := by
  induction exact with
  | boolean | integer | text | enumeration | date =>
    refine Exact.lossless_of_values _ (by constructor) ?_
    intro x y left right same
    cases left
    cases right
    simpa [Cell.toJson] using same
  | hugeInteger =>
    apply Exact.lossless_of_values _ .hugeInteger
    rintro _ _ ⟨⟩ ⟨⟩ same
    rw [Cell.hugeInteger_inj _ _ same]
  | blob =>
    apply Exact.lossless_of_values _ .blob
    rintro _ _ ⟨⟩ ⟨⟩ same
    rw [Cell.blob_inj _ _ same]
  | timestamp unit =>
    apply Exact.lossless_of_values _ (.timestamp unit)
    rintro _ _ ⟨⟩ ⟨⟩ same
    rw [(Cell.moment_inj _ _ _ _ same).2]
  | time =>
    apply Exact.lossless_of_values _ .time
    rintro _ _ ⟨⟩ ⟨⟩ same
    obtain ⟨rfl, rfl⟩ := Cell.moment_inj _ _ _ _ same
    rfl
  | interval =>
    apply Exact.lossless_of_values _ .interval
    rintro _ _ ⟨⟩ ⟨⟩ same
    obtain ⟨rfl, rfl, rfl⟩ := Cell.interval_inj _ _ _ _ _ _ same
    rfl
  | list item exact lossless =>
    apply Exact.lossless_of_values _ (.list item exact)
    intro x y left right same
    cases left with
    | list _ cells each =>
      cases right with
      | list _ others all => exact congrArg Cell.list (lossless.list item cells others each all same)
  | array item size exact lossless =>
    apply Exact.lossless_of_values _ (.array item size exact)
    intro x y left right same
    cases left with
    | array _ cells each =>
      generalize length : cells.length = size at right
      cases right with
      | array _ others all => exact congrArg Cell.list (lossless.list item cells others each all same)
  | record fields distinct exact lossless =>
    apply Exact.lossless_of_values _ (.record fields distinct exact)
    intro x y left right same
    cases left with
    | record _ cells named each =>
      cases right with
      | record _ others known all =>
        exact congrArg Cell.record (record_of_lossless fields distinct lossless cells others named known each all same)
  | map key value keys values known held =>
    apply Exact.lossless_of_values _ (.map key value keys values)
    intro x y left right same
    cases left with
    | map _ _ entries first second =>
      cases right with
      | map _ _ others third fourth =>
        exact congrArg Cell.map (known.map key value held entries others first second third fourth same)

/-- A cell of an exact type is known from its JSON, NULL included at every level. -/
theorem toJson_inj_iff (type : CellType) (exact : type.Exact) (x y : Cell) (left : type.Takes x)
    (right : type.Takes y) : x.toJson = y.toJson ↔ x = y :=
  ⟨exact.lossless type x y left right, fun same => congrArg Cell.toJson same⟩

/-- An interval that is NULL inside a list of records inside a map is told from one that is not. -/
theorem toJson_inj_iff_nested :
    let row := CellType.record [("count", .hugeInteger), ("span", .interval)]
    let type := CellType.map .text (.list row)
    let cell (span : Cell) := Cell.map [(.text "a", .list [.record [("count", .hugeInteger 1), ("span", span)], .null])]
    type.Exact ∧ type.Takes (cell .null) ∧ type.Takes (cell (.interval 1 0 0)) ∧
      (cell .null).toJson ≠ (cell (.interval 1 0 0)).toJson := by
  intro row type cell
  have exact : row.Exact := by
    refine .record _ (by decide) ?_
    simp only [List.forall_mem_cons, List.not_mem_nil, false_imp_iff, implies_true, and_true]
    exact ⟨.hugeInteger, .interval⟩
  have takes : ∀ span, CellType.interval.Takes span → type.Takes (cell span) := by
    intro span held
    have record : row.Takes (.record [("count", .hugeInteger 1), ("span", span)]) := by
      refine .value _ _ (.record _ _ rfl ?_)
      simp only [List.zip_cons_cons, List.zip_nil_right, List.forall_mem_cons, List.not_mem_nil, false_imp_iff,
        implies_true, and_true]
      exact ⟨.value _ _ (.hugeInteger 1), held⟩
    refine .value _ _ (.map _ _ _ ?_ ?_)
    · simpa only [List.forall_mem_singleton] using .value _ _ (.text "a")
    · simp only [List.forall_mem_singleton]
      refine .value _ _ (.list _ _ ?_)
      simpa only [List.forall_mem_cons, List.not_mem_nil, false_imp_iff, implies_true, and_true] using
        And.intro record (.null _)
  have nested : type.Exact := .map _ _ .text (.list _ exact)
  have left := takes .null (.null _)
  have right := takes (.interval 1 0 0) (.value _ _ (.interval 1 0 0))
  have known := toJson_inj_iff type nested (cell .null) (cell (.interval 1 0 0)) left right
  refine ⟨nested, left, right, mt known.mp ?_⟩
  simp [cell]

end CellType
end SqlSelect

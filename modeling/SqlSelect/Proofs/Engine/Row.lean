import Mathlib.Data.List.Forall2
import Mathlib.Data.List.Nodup
import SqlSelect.Engine.Cell
import SqlSelect.Proofs.Json.Fields

namespace SqlSelect.ResultSet

/-- The row has the names of the columns in order, each once, and under a name the cell of the last column that has
it. -/
structure Holds (names : List String) (cells : List Cell) (row : List (String × Json)) : Prop where
  ordered : Json.Ordered row
  named : ∀ name, name ∈ Json.names row ↔ name ∈ names
  last : ∀ (position : Nat) (name : String) (cell : Cell), names[position]? = some name →
    cells[position]? = some cell → name ∉ names.drop (position + 1) → Json.field? name row = some cell.toJson

def Keeps (names : List String) (cells : List Cell) (row : List (String × Json)) : Prop :=
  ∀ (position : Nat) (name : String) (cell : Cell), names[position]? = some name → cells[position]? = some cell →
    Json.field? name row = some cell.toJson

theorem rowOfCells_eq (names : List String) (cells : List Cell) :
    rowOfCells names cells = Json.putAll (names.zip (cells.map Cell.toJson)) [] := by
  rw [rowOfCells, Json.putAll, List.zip_map_right, List.foldl_map]
  rfl

theorem lookup_reverse_of_last {α : Type} (fields : List (String × α)) (position : Nat) (name : String) (value : α)
    (held : fields[position]? = some (name, value)) (last : name ∉ (fields.drop (position + 1)).map (·.1)) :
    fields.reverse.lookup name = some value := by
  obtain ⟨known, here⟩ := List.getElem?_eq_some_iff.mp held
  have split : fields = fields.take position ++ (name, value) :: fields.drop (position + 1) := by
    rw [← here, List.getElem_cons_drop, List.take_append_drop]
  have absent : (fields.drop (position + 1)).reverse.lookup name = none := by
    rw [List.lookup_eq_none_iff]
    intro field member
    rw [List.mem_reverse] at member
    exact bne_iff_ne.mpr fun same => last (List.mem_map.mpr ⟨field, member, same.symm⟩)
  rw [split, List.reverse_append, List.reverse_cons, List.append_assoc, List.lookup_append, absent]
  simp

theorem holds_rowOfCells (names : List String) (cells : List Cell) (fits : cells.length = names.length) :
    Holds names cells (rowOfCells names cells) := by
  have same_length : (cells.map Cell.toJson).length = names.length := by rw [List.length_map, fits]
  rw [rowOfCells_eq]
  constructor
  case ordered => exact Json.ordered_putAll _ [] List.Pairwise.nil
  case named =>
    intro name
    rw [Json.mem_names_putAll, Json.names, List.map_fst_zip (Nat.le_of_eq same_length.symm)]
    simp [Json.names]
  case last =>
    intro position name cell column held later
    rw [Json.field?_putAll, lookup_reverse_of_last _ position name cell.toJson, Option.some_or]
    · rw [List.getElem?_zip_eq_some, List.getElem?_map, held]
      exact ⟨column, rfl⟩
    · rw [List.map_drop, List.map_fst_zip (Nat.le_of_eq same_length.symm)]
      exact later

theorem Holds.keeps (names : List String) (cells : List Cell) (row : List (String × Json))
    (holds : Holds names cells row) (distinct : names.Nodup) : Keeps names cells row := by
  intro position name cell column held
  apply holds.last position name cell column held
  intro later
  obtain ⟨known, here⟩ := List.getElem?_eq_some_iff.mp column
  rw [← List.take_append_drop (position + 1) names, List.nodup_append] at distinct
  have before : name ∈ names.take (position + 1) := by
    rw [List.mem_take_iff_getElem]
    exact ⟨position, by omega, here⟩
  exact distinct.2.2 name before name later rfl

theorem nodup_of_keeps (names : List String)
    (keeps : ∀ cells, cells.length = names.length → Keeps names cells (rowOfCells names cells)) : names.Nodup := by
  rw [List.nodup_iff_getElem?_ne_getElem?]
  intro first second before known same
  -- two columns of one name that hold different numbers would both be read back under it
  let cells := (List.range names.length).map fun position : Nat => Cell.integer position
  have column : names[second]? = some names[second] := List.getElem?_eq_getElem known
  have held : ∀ position < names.length, cells[position]? = some (.integer position) := by
    intro position inside
    simp [cells, inside]
  have kept := keeps cells (by simp [cells])
  have one := kept first _ _ (same.trans column) (held first (by omega))
  have other := kept second _ _ column (held second known)
  rw [one] at other
  simp only [Cell.toJson, Option.some.injEq, Json.integer.injEq, Int.natCast_inj] at other
  omega

theorem forall₂_rowOfCells (names : List String) (rows : List (List Cell))
    (holds : List Cell → List (String × Json) → Prop) (each : ∀ cells ∈ rows, holds cells (rowOfCells names cells)) :
    List.Forall₂ holds rows (ofCells names rows).rows := by
  rw [ofCells, List.forall₂_map_right_iff, List.forall₂_same]
  exact each

theorem mapM_eq_ok_iff {α β ε : Type} (f : α → Except ε β) (items : List α) (results : List β) :
    items.mapM f = .ok results ↔ List.Forall₂ (fun item result => f item = .ok result) items results := by
  induction items generalizing results with
  | nil => cases results <;> simp [pure, Except.pure]
  | cons item items ih =>
    rw [List.mapM_cons]
    cases first : f item with
    | error fault => cases results <;> simp [bind, Except.bind, first]
    | ok value =>
      cases rest : items.mapM f with
      | error fault => cases results <;> simp [bind, Except.bind, first, ← ih, rest]
      | ok values => cases results <;> simp [bind, Except.bind, pure, Except.pure, first, ← ih, rest]

theorem readOut_eq_ok_iff (read : Cell → Except QueryError Cell) (names : List String) (rows : List (List Cell))
    (result : ResultSet) :
    readOut read names rows = .ok result ↔
      ∃ given, List.Forall₂ (List.Forall₂ fun cell value => read cell = .ok value) rows given ∧
        result = ofCells names given := by
  have pointwise (given : List (List Cell)) : rows.mapM (fun cells => cells.mapM read) = .ok given ↔
      List.Forall₂ (List.Forall₂ fun cell value => read cell = .ok value) rows given := by
    simp only [mapM_eq_ok_iff]
  simp only [← pointwise, readOut]
  cases rows.mapM fun cells => cells.mapM read with
  | error fault => simp [bind, Except.bind]
  | ok given => simp [bind, Except.bind, eq_comm]

/-- Take columns with these names and rows with a cell for each. The result has the names in order and a row for each
row, with one field for each different name: in it stands the cell of the last column of that name. Results of such
columns keep every cell exactly if no two have one name. The cells are what is given when those of the rows are read. -/
theorem cells_of_result (names : List String) :
    (∀ rows, (∀ cells ∈ rows, cells.length = names.length) →
        let result := ofCells names rows
        result.columns = names ∧ result.size = rows.length ∧ List.Forall₂ (Holds names) rows result.rows) ∧
      (names.Nodup ↔ ∀ rows, (∀ cells ∈ rows, cells.length = names.length) →
        List.Forall₂ (Keeps names) rows (ofCells names rows).rows) ∧
      ∀ read rows result, readOut read names rows = .ok result ↔
        ∃ given, List.Forall₂ (List.Forall₂ fun cell value => read cell = .ok value) rows given ∧
          result = ofCells names given := by
  refine ⟨?_, ?_, fun read => readOut_eq_ok_iff read names⟩
  · intro rows fits result
    refine ⟨rfl, List.length_map _, forall₂_rowOfCells names rows (Holds names) ?_⟩
    intro cells member
    exact holds_rowOfCells names cells (fits cells member)
  · constructor
    · intro distinct rows fits
      apply forall₂_rowOfCells names rows (Keeps names)
      intro cells member
      exact (holds_rowOfCells names cells (fits cells member)).keeps names cells _ distinct
    · intro keeps
      apply nodup_of_keeps names
      intro cells fits
      have kept := keeps [cells] (by simpa using fits)
      exact (List.forall₂_cons.mp kept).1

/-- A row in which the name `id` comes twice, read by a library that gives no decimals. -/
theorem cells_of_result_repeated :
    let names := ["id", "name", "id"]
    let rows := [[Cell.integer 1, .text "ada", .list [.null, .boolean true]]]
    let read : Cell → Except QueryError Cell := fun cell => match cell with
      | .decimal .. => .error (.execution "no decimals")
      | _ => .ok cell
    let result := ofCells names rows
    readOut read names rows = .ok result ∧ (∀ result, readOut read names [[.decimal 15 1]] ≠ .ok result) ∧
      result.columns = names ∧ result.size = 1 ∧
      ∃ row, result.rows = [row] ∧ Json.field? "name" row = some (.text "ada") ∧
        Json.field? "id" row = some (.array [.null, .bool true]) := by
  intro names rows read result
  obtain ⟨shape, _, given⟩ := cells_of_result names
  obtain ⟨columns, size, each⟩ := shape rows (by decide)
  obtain ⟨row, _, holds, rest, shown⟩ := List.forall₂_cons_left_iff.mp each
  rw [List.forall₂_nil_left_iff.mp rest] at shown
  have name := holds.last 1 "name" (.text "ada") rfl rfl (by decide)
  have id := holds.last 2 "id" (.list [.null, .boolean true]) rfl rfl (by decide)
  have readable : readOut read names rows = .ok result :=
    (given read rows result).mpr ⟨rows, .cons (.cons rfl (.cons rfl (.cons rfl .nil))) .nil, rfl⟩
  have refused : ∀ result, readOut read names [[.decimal 15 1]] ≠ .ok result := by
    intro result succeeded
    obtain ⟨_, cells, _⟩ := (given read _ result).mp succeeded
    obtain ⟨_, _, first, _⟩ := List.forall₂_cons_left_iff.mp cells
    obtain ⟨_, _, cell, _⟩ := List.forall₂_cons_left_iff.mp first
    cases cell
  exact ⟨readable, refused, columns, size, row, shown, name, id⟩

/-- Of two columns that are both named `id` the row keeps the second. -/
theorem cell_lost :
    ¬ ∀ names rows, (∀ cells ∈ rows, cells.length = names.length) →
      let result := ofCells names rows
      result.columns = names ∧ result.size = rows.length ∧ List.Forall₂ (Keeps names) rows result.rows := by
  intro always
  have kept := (always ["id", "id"] [[.integer 1, .text "ada"]] (by decide)).2.2
  have first := (List.forall₂_cons.mp kept).1 0 "id" (.integer 1) rfl rfl
  cases first

end SqlSelect.ResultSet

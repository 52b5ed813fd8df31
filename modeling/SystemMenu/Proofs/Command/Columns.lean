import Mathlib.Order.Bounds.Defs
import SystemMenu.Command.Table
import SystemMenu.Proofs.Listing.FilterText

/-!
# Columns of tables

However the width of a text is measured, laying out a table never fails, and every cell but the last of its
row is filled up to the widest cell of its column and the gap after it. If widths add when texts are joined,
all cells of a column start at the same place, however many cells their rows have. The end of a line loses
nothing but blanks.

## Main statements

* `isGreatest_columnWidth`: a column is as wide as its widest cell.
* `InColumns.of_fields?`, `forall₂_of_layout?`: how the cells of a row are filled, and how each line comes
  from its row.
* `InColumns.width_before`: where the cells of a column start.
* `layout_in_columns`: the lines of a table.
-/

namespace SystemMenu

namespace Table

/-- A list of optional results is there exactly if each of them is. -/
theorem mapM_eq_some_iff {α β : Type} {f : α → Option β} {xs : List α} {ys : List β} :
    xs.mapM f = some ys ↔ xs.map f = ys.map some := by
  induction xs generalizing ys with
  | nil => cases ys <;> simp
  | cons x rest ih =>
      cases first : f x with
      | none => cases ys <;> simp [List.mapM_cons, first]
      | some y => cases others : rest.mapM f <;> cases ys <;> simp [List.mapM_cons, first, others, ← ih]

section

variable {width : List Char → Nat} {rows : List (List String)} {row : List String} {column : Nat}
  {cell : String} {field : List Char} {fields : List (List Char)}

/-- The widths of the cells of a column. -/
def widthsIn (width : List Char → Nat) (rows : List (List String)) (column : Nat) : Set Nat :=
  {n | ∃ row ∈ rows, ∃ cell, row[column]? = some cell ∧ width cell.toList = n}

theorem isGreatest_columnWidth (member : row ∈ rows) (inside : column < row.length) :
    IsGreatest (widthsIn width rows column) (columnWidth width rows column) := by
  have here : row[column]? = some row[column] := List.getElem?_eq_getElem inside
  constructor
  · have listed : width row[column].toList ∈
        rows.filterMap fun row => (row[column]?).map fun cell => width cell.toList :=
      List.mem_filterMap.2 ⟨row, member, by rw [here]; rfl⟩
    obtain ⟨widest, greatest⟩ := Option.isSome_iff_exists.1 (List.isSome_max?_of_mem listed)
    obtain ⟨other, among, found⟩ := List.mem_filterMap.1 (List.max?_mem greatest)
    obtain ⟨cell, there, measured⟩ := Option.map_eq_some_iff.1 found
    refine ⟨other, among, cell, there, ?_⟩
    rw [columnWidth, greatest, measured]
    rfl
  · rintro n ⟨other, among, cell, there, rfl⟩
    exact le_columnWidth width among there

/-- A cell with spaces after it takes the width of its column and the gap; the last cell of a row has no
spaces after it. -/
def IsFilled (width : List Char → Nat) (rows : List (List String)) (row : List String) (column : Nat)
    (cell : String) (field : List Char) : Prop :=
  ∃ spaces, field = cell.toList ++ List.replicate spaces ' ' ∧
    if column + 1 < row.length then
      width cell.toList + spaces = columnWidth width rows column + gap
    else spaces = 0

/-- All cells of a row, filled. -/
structure InColumns (width : List Char → Nat) (rows : List (List String)) (row : List String)
    (fields : List (List Char)) : Prop where
  length_eq : fields.length = row.length
  filled : ∀ column cell field, row[column]? = some cell → fields[column]? = some field →
    IsFilled width rows row column cell field

theorem spaces?_eq_some {widest spaces : Nat} (fits : spaces? width widest cell = some spaces) :
    width cell.toList + spaces = widest + gap := by
  rw [spaces?, Option.ite_none_right_eq_some] at fits
  obtain ⟨narrow, counted⟩ := fits
  have difference := Option.some.inj counted
  omega

theorem isFilled_of_field? (member : row ∈ rows) (inside : column < row.length)
    (made : field? width (columnWidths width rows) row column cell = some field) :
    IsFilled width rows row column cell field := by
  unfold field? at made
  unfold IsFilled
  split at made
  · rename_i inner
    obtain ⟨widest, known, spaced⟩ := Option.bind_eq_some_iff.1 made
    obtain ⟨spaces, fits, joined⟩ := Option.bind_eq_some_iff.1 spaced
    rw [getElem?_columnWidths width member inside] at known
    cases known
    cases joined
    exact ⟨spaces, rfl, by rw [if_pos inner]; exact spaces?_eq_some fits⟩
  · rename_i last
    cases made
    exact ⟨0, by simp, by rw [if_neg last]⟩

theorem InColumns.of_fields? (member : row ∈ rows)
    (made : fields? width (columnWidths width rows) row = some fields) :
    InColumns width rows row fields := by
  have each := mapM_eq_some_iff.1 made
  refine ⟨?_, fun column cell field here there => ?_⟩
  · simpa using (congrArg List.length each).symm
  · obtain ⟨inside, -⟩ := List.getElem?_eq_some_iff.1 here
    have result := congrArg (·[column]?) each
    simp only [List.getElem?_map, List.getElem?_zipIdx, here, there, Option.map_some, Nat.zero_add] at result
    exact isFilled_of_field? member inside (Option.some.inj result)

/-- Each line holds the cells of its row, filled, without the blanks at the end. -/
theorem forall₂_of_layout? {lines : List String} (made : layout? width rows = some lines) :
    List.Forall₂ (fun row line => row ∈ rows ∧ ∃ fields, InColumns width rows row fields ∧
      line = .ofList (Text.trimEnd fields.flatten)) rows lines := by
  have results := mapM_eq_some_iff.1 made
  rw [← List.forall₂_eq_eq_eq, List.forall₂_map_left_iff, List.forall₂_map_right_iff] at results
  refine ((List.forall₂_and_left rows lines).2 ⟨fun _ member => member, results⟩).imp ?_
  rintro row line ⟨member, result⟩
  obtain ⟨fields, filled, text⟩ := Option.map_eq_some_iff.1 result
  exact ⟨member, fields, .of_fields? member filled, text.symm⟩

/-- The last cell of a row stands there as it is. -/
theorem InColumns.last (columns : InColumns width rows row fields) (here : row[column]? = some cell)
    (there : fields[column]? = some field) (last : row.length = column + 1) : field = cell.toList := by
  obtain ⟨spaces, rfl, counted⟩ := columns.filled column cell field here there
  rw [if_neg (by omega)] at counted
  simp [counted]

/-- The gap at least stands between a cell and the next one. -/
theorem InColumns.inner (columns : InColumns width rows row fields) (member : row ∈ rows)
    (here : row[column]? = some cell) (there : fields[column]? = some field)
    (inner : column + 1 < row.length) :
    ∃ spaces, gap ≤ spaces ∧ field = cell.toList ++ List.replicate spaces ' ' := by
  obtain ⟨spaces, filled, counted⟩ := columns.filled column cell field here there
  rw [if_pos inner] at counted
  have narrow := le_columnWidth width member here
  exact ⟨spaces, by omega, filled⟩

/-- Where the cells of a column start: after the columns before, each with its gap. -/
def start (width : List Char → Nat) (rows : List (List String)) : Nat → Nat
  | 0 => 0
  | column + 1 => start width rows column + (columnWidth width rows column + gap)

section Additive

variable (adds : ∀ a b, width (a ++ b) = width a + width b)
include adds

theorem width_nil : width [] = 0 := by
  have joined := adds [] []
  rw [List.append_nil] at joined
  omega

theorem width_replicate (unit : width [' '] = 1) (count : Nat) :
    width (List.replicate count ' ') = count := by
  induction count with
  | zero => exact width_nil adds
  | succ count ih => rw [List.replicate_succ', adds, ih, unit]

theorem IsFilled.width_eq (filled : IsFilled width rows row column cell field)
    (unit : width [' '] = 1) (inner : column + 1 < row.length) :
    width field = columnWidth width rows column + gap := by
  obtain ⟨spaces, rfl, counted⟩ := filled
  rw [if_pos inner] at counted
  rw [adds, width_replicate adds unit, counted]

/-- What stands before a cell is as wide as the columns before its own. -/
theorem InColumns.width_before (columns : InColumns width rows row fields) (unit : width [' '] = 1)
    (inside : column < row.length) : width (fields.take column).flatten = start width rows column := by
  induction column with
  | zero => exact width_nil adds
  | succ column ih =>
      have before : column < row.length := Nat.lt_of_succ_lt inside
      have there : column < fields.length := columns.length_eq ▸ before
      have filled := columns.filled column row[column] fields[column]
        (List.getElem?_eq_getElem before) (List.getElem?_eq_getElem there)
      calc width (fields.take (column + 1)).flatten
          = width ((fields.take column).flatten ++ fields[column]) := by
            rw [List.take_succ_eq_append_getElem there, List.flatten_append, List.flatten_singleton]
        _ = start width rows (column + 1) := by
            rw [adds, ih before, filled.width_eq adds unit inside, start]

end Additive

/-- A table always has a layout, with a line for each row: no cell is wider than its column or without one.
Every cell but the last of its row is filled up to the width of its column, which is that of the widest cell
in it, and the gap. The blanks at the end of a line are left out and nothing else. If widths add when texts
are joined, the cells of a column start at the same place in all rows. -/
theorem layout_in_columns (width : List Char → Nat) (rows : List (List String)) :
    ∃ fields : List String → List (List Char),
      layout? width rows =
        some (rows.map fun row => .ofList (Text.trimEnd (fields row).flatten)) ∧
      (∀ row ∈ rows, InColumns width rows row (fields row)) ∧
      (∀ row ∈ rows, ∀ column < row.length,
        IsGreatest (widthsIn width rows column) (columnWidth width rows column)) ∧
      (∀ row ∈ rows, ∃ blanks, Text.trimEnd (fields row).flatten ++ blanks = (fields row).flatten ∧
        (∀ c ∈ blanks, Text.isBlank c = true) ∧
        ∀ c, (Text.trimEnd (fields row).flatten).getLast? = some c → Text.isBlank c = false) ∧
      ((∀ a b, width (a ++ b) = width a + width b) → width [' '] = 1 →
        ∀ row ∈ rows, ∀ column < row.length,
          width ((fields row).take column).flatten = start width rows column) := by
  have made : ∀ row ∈ rows, ∃ fields, fields? width (columnWidths width rows) row = some fields :=
    fun row member => Option.isSome_iff_exists.1 (isSome_fields? width member)
  choose! fields made using made
  have columns : ∀ row ∈ rows, InColumns width rows row (fields row) :=
    fun row member => .of_fields? member (made row member)
  refine ⟨fields, ?_, columns, ?_, ?_, ?_⟩
  · rw [layout?, mapM_eq_some_iff, List.map_map]
    refine List.map_congr_left fun row member => ?_
    rw [line?, made row member]
    rfl
  · exact fun row member column inside => isGreatest_columnWidth member inside
  · intro row member
    obtain ⟨blanks, whole, blank⟩ := Text.trimEnd_append (fields row).flatten
    exact ⟨blanks, whole, blank, Text.getLast?_trimEnd (fields row).flatten⟩
  · exact fun adds unit row member column inside =>
      (columns row member).width_before adds unit inside

end

/-- Rows of different lengths, some with wide characters. -/
def wideRows : List (List String) :=
  [["pacman", "Pac-Man"], ["xevious", "ゼビウス", "1982"], ["ab", "Ab", ""]]

/-- The second cells start after nine columns and the third ones after ten more. -/
theorem layout_in_columns_wideRows :
    (∀ a b, Text.displayWidth (a ++ b) = Text.displayWidth a + Text.displayWidth b) ∧
    Text.displayWidth [' '] = 1 ∧
    layout wideRows = ["pacman   Pac-Man", "xevious  ゼビウス  1982", "ab       Ab"] ∧
    ∃ fields : List String → List (List Char),
      layout? Text.displayWidth wideRows =
        some (wideRows.map fun row => .ofList (Text.trimEnd (fields row).flatten)) ∧
      ∀ row ∈ wideRows, ∀ column < row.length,
        [0, 9, 19][column]? = some (Text.displayWidth ((fields row).take column).flatten) := by
  have unit : Text.displayWidth [' '] = 1 := by decide +kernel
  have known : ∀ row ∈ wideRows, ∀ column < row.length,
      [0, 9, 19][column]? = some (start Text.displayWidth wideRows column) := by decide +kernel
  obtain ⟨fields, made, -, -, -, starts⟩ := layout_in_columns Text.displayWidth wideRows
  refine ⟨Text.displayWidth_append, unit, by decide +kernel, fields, made, ?_⟩
  intro row member column inside
  rw [starts Text.displayWidth_append unit row member column inside]
  exact known row member column inside

end Table

end SystemMenu

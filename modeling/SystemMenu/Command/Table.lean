import SystemMenu.Text.Blank
import SystemMenu.Text.Width

/-!
# Tables of text

Rows of cells are laid out in columns. A column is as wide as its widest cell, two spaces stand
between columns, and blanks at the end of a line are left out. Rows may have different lengths.
How wide a text is drawn is not said here: all of this takes a measure of width. There is no layout
if a cell does not fit into its column or has none; this never happens, as the columns are measured
on the same rows.

## Main declarations

* `columnWidths`: the widths of all columns.
* `field?`: a cell with the spaces after it.
* `layout?`, `layoutBy`: the lines of a table by any measure of width, and the same lines knowing that they
  are there.
* `layout`: the lines of a table by the measure with which the program runs.
-/

namespace SystemMenu.Table

/-- Cells between two columns. -/
def gap : Nat := 2

section

variable (width : List Char → Nat)

/-- Width of the widest cell of a column. -/
def columnWidth (rows : List (List String)) (column : Nat) : Nat :=
  (rows.filterMap fun row => (row[column]?).map fun cell => width cell.toList).max?.getD 0

/-- Length of the longest row. -/
def columnCount (rows : List (List String)) : Nat := (rows.map List.length).max?.getD 0

/-- The widths of all columns. -/
def columnWidths (rows : List (List String)) : List Nat :=
  (List.range (columnCount rows)).map (columnWidth width rows)

/-- Spaces between a cell and the next column, if the cell fits into its own. -/
def spaces? (widest : Nat) (cell : String) : Option Nat :=
  if width cell.toList ≤ widest then some (widest - width cell.toList + gap) else none

/-- A cell of a row with the spaces after it; there are none after the last one. -/
def field? (widths : List Nat) (row : List String) (column : Nat) (cell : String) :
    Option (List Char) :=
  if column + 1 < row.length then do
    let widest ← widths[column]?
    let spaces ← spaces? width widest cell
    return cell.toList ++ List.replicate spaces ' '
  else some cell.toList

/-- All cells of a row with the spaces after them. -/
def fields? (widths : List Nat) (row : List String) : Option (List (List Char)) :=
  row.zipIdx.mapM fun (cell, column) => field? width widths row column cell

/-- The line of a row, given the widths of its columns. -/
def line? (widths : List Nat) (row : List String) : Option String :=
  (fields? width widths row).map fun fields => .ofList (Text.trimEnd fields.flatten)

/-- The lines of a table. -/
def layout? (rows : List (List String)) : Option (List String) :=
  rows.mapM (line? width (columnWidths width rows))

end

section

variable (width : List Char → Nat) {rows : List (List String)} {row : List String} {column : Nat}
  {cell : String}

/-- No cell is wider than its column. -/
theorem le_columnWidth (member : row ∈ rows) (here : row[column]? = some cell) :
    width cell.toList ≤ columnWidth width rows column :=
  List.le_max?_getD_of_mem (List.mem_filterMap.2 ⟨row, member, by rw [here]; rfl⟩)

/-- Every cell of a row has a column. -/
theorem getElem?_columnWidths (member : row ∈ rows) (inside : column < row.length) :
    (columnWidths width rows)[column]? = some (columnWidth width rows column) := by
  have counted : row.length ≤ columnCount rows :=
    List.le_max?_getD_of_mem (List.mem_map_of_mem member)
  rw [columnWidths, List.getElem?_map, List.getElem?_range (by omega)]
  rfl

theorem isSome_mapM {α β : Type} {f : α → Option β} {xs : List α}
    (all : ∀ x ∈ xs, (f x).isSome) : (xs.mapM f).isSome := by
  induction xs with
  | nil => rfl
  | cons x rest ih =>
      obtain ⟨y, first⟩ := Option.isSome_iff_exists.1 (all x List.mem_cons_self)
      obtain ⟨ys, others⟩ :=
        Option.isSome_iff_exists.1 (ih fun z member => all z (List.mem_cons_of_mem x member))
      simp [List.mapM_cons, first, others]

theorem isSome_field? (member : row ∈ rows) (here : row[column]? = some cell) :
    (field? width (columnWidths width rows) row column cell).isSome := by
  unfold field?
  split
  · rename_i inner
    have inside : column < row.length := Nat.lt_of_succ_lt inner
    simp [getElem?_columnWidths width member inside, spaces?, le_columnWidth width member here]
  · rfl

/-- A row of a table fits into its columns. -/
theorem isSome_fields? (member : row ∈ rows) :
    (fields? width (columnWidths width rows) row).isSome :=
  isSome_mapM fun _ here => isSome_field? width member (List.mem_zipIdx_iff_getElem?.1 here)

/-- Every table has a layout. -/
theorem isSome_layout? (rows : List (List String)) : (layout? width rows).isSome :=
  isSome_mapM fun row member => by
    rw [line?, Option.isSome_map]
    exact isSome_fields? width member

/-- The lines of a table, which are always there. -/
def layoutBy (rows : List (List String)) : List String :=
  (layout? width rows).get (isSome_layout? width rows)

@[simp] theorem some_layoutBy (rows : List (List String)) :
    some (layoutBy width rows) = layout? width rows := Option.some_get _

end

/-- The lines of a table by display width. -/
def layout (rows : List (List String)) : List String := layoutBy Text.displayWidth rows

end SystemMenu.Table

import Folio.Console.Run
import Folio.Text.Lines

/-!
# Tables

A table has a row for each item, in columns. A column that is as wide as its widest cell takes the
width of a cell to be its length in UTF-8. As that is no less than the number of its characters, all
cells fit. But no row can be written of a table with a column that takes too great a width.

Main definitions:

* `Column`, `Table`: which cells a row has.
* `Table.rows`: the rows of items, with the columns aligned.
* `Table.fits`: whether these rows can be written.
* `Table.write`: a run that writes them.
-/

namespace Folio.Console

/-- How wide a column is, in characters. -/
inductive Width where
  /-- At least so wide; a longer cell takes more. -/
  | least (width : Nat)
  /-- As wide as the longest cell in UTF-8. -/
  | longest
  deriving DecidableEq, Repr, Inhabited

/-- A column that others follow. -/
structure Column (α : Type) where
  cell : α → String
  width : Width
  /-- The number of spaces after the column. -/
  gap : Nat

/-- Columns, with a last cell that is not padded. -/
structure Table (α : Type) where
  /-- The number of spaces before the first column. -/
  indent : Nat
  columns : List (Column α)
  last : α → String

/-- A number of spaces. -/
def spaces (n : Nat) : String := .ofList (List.replicate n ' ')

/-- A cell with spaces after it up to a width in characters. -/
def padTo (width : Nat) (cell : String) : String := cell ++ spaces (width - cell.length)

/-- The length of the longest of some texts in UTF-8. -/
def longest (texts : List String) : Nat := (texts.map String.utf8ByteSize).foldl max 0

/-- The width of a column for items. -/
def Column.widthFor (column : Column α) (items : List α) : Nat :=
  match column.width with
  | .least width => width
  | .longest => longest (items.map column.cell)

/-- The cell of an item with the spaces after it, where `all` are the items of the table. -/
def Column.padded (column : Column α) (all : List α) (item : α) : String :=
  padTo (column.widthFor all) (column.cell item) ++ spaces column.gap

/-- The row of an item, where `all` are the items of the table. -/
def Table.row (table : Table α) (all : List α) (item : α) : String :=
  spaces table.indent ++ String.join (table.columns.map fun column => column.padded all item)
    ++ table.last item

/-- The rows of items. -/
def Table.rows (table : Table α) (items : List α) : List String := items.map (table.row items)

/-! ## Writing -/

/-- The greatest width that a column can take from its cells. -/
def widthLimit : Nat := 65535

/-- Whether a column can take its width from the cells of items, if it does. -/
def Column.fits (column : Column α) (items : List α) : Bool :=
  match column.width with
  | .least _ => true
  | .longest => column.widthFor items ≤ widthLimit

/-- Whether the rows of items can be written. -/
def Table.fits (table : Table α) (items : List α) : Bool :=
  table.columns.all (·.fits items)

/-- Writes the rows of items, each as a line. -/
def Table.write (table : Table α) (items : List α) : Run Unit :=
  forM (table.rows items) fun row =>
    if table.fits items then .write (Text.unlines [row]) else .fail .tooWide

end Folio.Console

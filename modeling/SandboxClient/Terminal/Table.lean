/-
  SandboxClient/Terminal/Table.lean
  =================================
  **Tables.** The cells of a column begin in the same column of the terminal,
  two columns behind the widest cell before them. Cells are cut off at a fixed
  width. A table is shown plain or with colours; only the colours differ, and
  the blanks at the ends of lines.
-/
import SandboxClient.Terminal.Style
import SandboxClient.Terminal.Wrap

namespace SandboxClient.Terminal

/-! ### Cells

The program's `Cell`. The colour of a cell takes no columns. -/

def columnGap : Nat := 2

def maxCellWidth : Nat := 48

structure Cell where
  text : String
  colour : Option Colour
  deriving DecidableEq, Repr

def Cell.plain (text : String) : Cell := ⟨text, none⟩

def Cell.coloured (text : String) (c : Colour) : Cell := ⟨text, some c⟩

/-- A cell cut to the greatest width. -/
def Cell.fitted (c : Cell) : Cell := { c with text := truncate c.text maxCellWidth }

def Cell.shown (c : Cell) : String :=
  match c.colour with
  | some colour => Terminal.coloured colour c.text
  | none => c.text

/-! ### Tables

The program's `Table`. It is laid out twice: as plain lines (`lines`), which have no blanks at their
ends, and as it is printed (`print`). -/

/-- A table: headers, and rows of cells that are not too wide. -/
structure Table where
  headers : List String
  rows : List (List Cell)
  deriving Repr

def Table.of (headers : List String) (rows : List (List Cell)) : Table :=
  ⟨headers, rows.map (fun r => r.map Cell.fitted)⟩

/-- The greater of the widths at each place, where one list may be longer. -/
def widest : List Nat → List Nat → List Nat
  | [], ws => ws
  | vs, [] => vs
  | v :: vs, w :: ws => max v w :: widest vs ws

def Table.columnWidths (t : Table) : List Nat :=
  t.rows.foldl (fun ws r => widest ws (r.map (fun c => Text.displayWidth c.text)))
    (t.headers.map Text.displayWidth)

/-- The blanks between a text in a column and the next column. -/
def padding (width : Nat) (text : String) : String :=
  spaces (width - Text.displayWidth text + columnGap)

/-- A row, each cell shown by `render` and filled up to its column, the last one excepted. -/
def layRow (render : Cell → String) : List Nat → List Cell → String
  | _, [] => ""
  | _, [c] => render c
  | w :: ws, c :: d :: cs => render c ++ padding w c.text ++ layRow render ws (d :: cs)
  | [], c :: d :: cs => render c ++ padding 0 c.text ++ layRow render [] (d :: cs)

def Table.headerRow (t : Table) : List Cell := t.headers.map Cell.plain

/-- The plain lines of a table before blanks at their ends are dropped. -/
def Table.fullLines (t : Table) : List String :=
  (t.headerRow :: t.rows).map (layRow Cell.text t.columnWidths)

/-- The plain lines of a table, the headers first. -/
def Table.lines (t : Table) : List String :=
  t.fullLines.map (fun l => String.ofList (Text.trimEnd l.toList))

/-- A table as it is printed. -/
def Table.printed (t : Table) : String :=
  let header := layRow (fun c => coloured .darkGrey c.text) t.columnWidths t.headerRow
  String.join ((header :: t.rows.map (layRow Cell.shown t.columnWidths)).map line)

end SandboxClient.Terminal

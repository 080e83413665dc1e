import GuidedExploration.Text.Cut
import GuidedExploration.Text.Width

/-!
Tables of text: cells between bars, rows between lines of dashes, every column as wide as its
widest line. A cell may have several lines, and a row is as high as its highest cell.
-/

set_option autoImplicit false

namespace GuidedExploration.Grid

open Text

abbrev Row := List (List (List Char))

def row (cells : List String) : Row := cells.map fun cell => lines cell.toList

inductive Escape where
  | outside
  | begun
  | inside

/-- The columns of a colour sequence between its bracket and the letter `m`, which take no room. -/
def hiddenFrom : Escape → List Char → Nat
  | _, [] => 0
  | .outside, c :: s => hiddenFrom (if c.toNat = 27 then .begun else .outside) s
  | .begun, c :: s => if c = '[' then 1 + hiddenFrom .inside s else hiddenFrom .outside s
  | .inside, c :: s =>
    (if isControl c then 0 else min 1 (columns c)) +
      hiddenFrom (if c = 'm' then .outside else .inside) s

def lineWidth (line : List Char) : Nat := width line - hiddenFrom .outside line

def cellWidth (cell : List (List Char)) : Nat := (cell.map lineWidth).foldl Nat.max 0

def widen : List Nat → List Nat → List Nat
  | [], widths => widths
  | widths, [] => widths
  | a :: as, b :: bs => Nat.max a b :: widen as bs

def columnWidths (rows : List Row) : List Nat :=
  rows.foldl (fun widths row => widen widths (row.map cellWidth)) []

def rowHeight (row : Row) : Nat := (row.map List.length).foldl Nat.max 1

def rowLine (widths : List Nat) (row : Row) (index : Nat) : List Char :=
  -- A row with fewer cells than there are columns ends in empty ones.
  let cells := widths.zip (row ++ List.replicate (widths.length - row.length) [])
  cells.flatMap (fun (width, cell) =>
    let line := cell.getD index []
    ['|', ' '] ++ line ++ List.replicate (width - lineWidth line) ' ' ++ [' ']) ++ ['|', '\n']

def separator (widths : List Nat) : List Char :=
  widths.flatMap (fun width => '+' :: List.replicate (width + 2) '-') ++ ['+', '\n']

def render (rows : List Row) : String :=
  let widths := columnWidths rows
  String.ofList (separator widths ++ rows.flatMap fun row =>
    (List.range (rowHeight row)).flatMap (rowLine widths row) ++ separator widths)

end GuidedExploration.Grid

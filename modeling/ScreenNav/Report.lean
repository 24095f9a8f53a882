import ScreenNav.ReadBack
import ScreenNav.Screen

/-!
# The report on screens

What a report says about every extra of a screen: its type, how it is read back, whether it is
bound, and whether it could be.

**The table** of a screen has a row for each extra below a row of headings. A column is as wide as
its widest cell, and two spaces follow it. Defaults stand at the right of their column, everything
else at the left.
-/

namespace ScreenNav

/-- What a report says about one extra. -/
structure ReportRow where
  name : String
  type : String
  category : Category
  accessor : Option String
  fallback : Option String
  cast : Bool
  bound : Bool
  writable : Bool
deriving DecidableEq, Repr

/-- The row of an extra. -/
def Extra.row (e : Extra) : ReportRow :=
  let plan := e.type.plan?
  { name := e.name
    type := e.type.name
    category := e.type.category
    accessor := plan.map AccessorPlan.method
    fallback := plan.bind AccessorPlan.fallback
    cast := (plan.map AccessorPlan.needsCast).getD false
    bound := e.bound
    writable := e.writable }

/-- The rows of a screen, in the order of its extras. -/
def Screen.rows (s : Screen) : List ReportRow := s.extras.map Extra.row

/-! ## The table -/

/-- The headings of the columns. -/
def reportHeadings : List String := ["Field", "Type", "Category", "Accessor", "Default", "Bind"]

/-- The column whose cells stand at the right. -/
def rightAligned : String := "Default"

namespace ReportRow

/-- How the value is read back. -/
def accessorCell (r : ReportRow) : String :=
  r.accessor.getD "unsupported" ++ (if r.cast then " (cast)" else "")

/-- Whether the field is bound. -/
def bindCell (r : ReportRow) : String :=
  if ¬ r.bound then "no" else if r.writable then "yes" else "not writable"

/-- The cells of a row, in the order of the headings. -/
def cells (r : ReportRow) : List String :=
  [r.name, r.type, r.category.name, r.accessorCell, r.fallback.getD "", r.bindCell]

end ReportRow

/-- Spaces in the given number. -/
def spaces (count : Nat) : String := String.ofList (List.replicate count ' ')

/-- A cell filled up to the width of its column, and the gap behind it. -/
def padCell (heading cell : String) (width : Nat) : String :=
  let filling := spaces (width - cell.length)
  (if heading = rightAligned then filling ++ cell else cell ++ filling) ++ "  "

/-- The width of each column of a table. -/
def columnWidths (table : List (List String)) : List Nat :=
  table.foldl (fun widths cells => widths.zipWith (fun width cell => max width cell.length) cells)
    (reportHeadings.map fun _ => 0)

/-- The line of a row. -/
def tableLine (widths : List Nat) (cells : List String) : String :=
  String.join <|
    (reportHeadings.zip (cells.zip widths)).map fun (heading, cell, width) =>
      padCell heading cell width

/-- The lines of the table of a screen. -/
def Screen.table (s : Screen) : List String :=
  let table := reportHeadings :: s.rows.map ReportRow.cells
  table.map (tableLine (columnWidths table))

/-- The lines of a report on the screens that a navigator would serve. -/
def reportLines (package : String) (screens : List Screen) : List String :=
  ["Navigator " ++ package, ""] ++ screens.flatMap fun s => s.className :: s.table ++ [""]

end ScreenNav

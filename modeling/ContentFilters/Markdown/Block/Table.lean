import ContentFilters.Markdown.Block.Basic

/-!
# Tables

A table is a row of headings, a row that separates, and the rows of the body. The cells of a row are
separated by bars that are neither escaped nor part of code; a row may begin and end with a bar too.
Colons in the separating row align the cells of a column.
-/
namespace ContentFilters.Markdown.Block

/-- A run of backticks in a row: how many they are, the places of the first and the last one, and
whether a backslash stands before them. -/
structure Ticks where
  size : Nat
  first : Nat
  last : Nat
  escaped : Bool

inductive RowSign where
  | bar (place : Nat)
  | ticks (ticks : Ticks)

/-- The signs of a row from a place on. `budget` bounds their number. -/
def rowSigns : Nat → Nat → Text → List RowSign
  | 0, _, _ => []
  | budget + 1, place, s =>
    match s with
    | [] => []
    | '|' :: rest => .bar place :: rowSigns budget (place + 1) rest
    | '\\' :: '\\' :: rest => rowSigns budget (place + 2) rest
    | '\\' :: '|' :: rest => rowSigns budget (place + 2) rest
    | '\\' :: '`' :: rest =>
      let size := 1 + (rest.takeWhile (· = '`')).length
      .ticks ⟨size, place, place + size, true⟩ ::
        rowSigns budget (place + size + 1) (rest.dropWhile (· = '`'))
    | '`' :: rest =>
      let size := 1 + (rest.takeWhile (· = '`')).length
      .ticks ⟨size, place, place + size - 1, false⟩ ::
        rowSigns budget (place + size) (rest.dropWhile (· = '`'))
    | _ :: rest => rowSigns budget (place + 1) rest

/-- The regions of code in a row: each run of backticks is closed by the next one of its size, the
first backtick after a backslash not counted. `budget` bounds their number. -/
def codeRegions : Nat → List Ticks → List (Nat × Nat)
  | 0, _ => []
  | _, [] => []
  | budget + 1, ticks :: rest =>
    let size := if ticks.escaped then ticks.size - 1 else ticks.size
    match rest.dropWhile (·.size != size) with
    | closing :: after =>
      if size = 0 then codeRegions budget rest
      else (ticks.first, closing.last) :: codeRegions budget after
    | [] => codeRegions budget rest

/-- The pieces of a text between some places, in increasing order, at which it is cut. `passed` is
the number of characters before the text. -/
def cutAtPlaces (passed : Nat) : List Nat → Text → List Text
  | [], s => [s]
  | place :: places, s =>
    s.take (place - passed) :: cutAtPlaces (place + 1) places (s.drop (place + 1 - passed))

def innerCells (row : Text) : List Text :=
  let signs := rowSigns row.length 0 row
  let ticks := signs.filterMap fun sign => match sign with | .ticks t => some t | _ => none
  let regions := codeRegions ticks.length ticks
  let bars := signs.filterMap fun sign => match sign with | .bar place => some place | _ => none
  cutAtPlaces 0 (bars.filter fun bar => !regions.any fun (first, last) =>
    first ≤ bar && bar ≤ last) row

/-- Whether a row ends with a bar that is not escaped. -/
def endsWithBar (row : Text) : Bool :=
  match row.reverse with
  | '|' :: before => (before.takeWhile (· = '\\')).length % 2 = 0
  | _ => false

/-- A row without the bar at its end and the pairs of backslashes before the bar. -/
def dropEndBar (row : Text) : Text :=
  if endsWithBar row then Text.dropEndWhile (· = '\\') row.dropLast else row

def hasBorder (row : Text) : Bool := row.head? == some '|' || endsWithBar row

/-- The cells of a row; `border` says whether bars at its ends separate nothing. -/
def cells (border : Bool) (row : Text) : List Text :=
  if border then
    innerCells (dropEndBar (if row.head? == some '|' then row.drop 1 else row))
  else innerCells row

def trimSpaces (line : Text) : Text := Text.trimWhile (· = ' ') line

/-- The alignment that a cell of the separating row stands for. -/
def alignment (cell : Text) : Option String :=
  let cell := trimSpaces cell
  match cell.head? == some ':', cell.getLast? == some ':' with
  | true, true => some "center"
  | true, false => some "left"
  | false, true => some "right"
  | false, false => none

structure Frame where
  border : Bool
  columns : List (Option String)

/-- The frame of a table, if the lines of a block are one. A table of one column has a border in
each of its lines. -/
def frame? (lines : List Text) : Option Frame :=
  match lines.map trimSpaces with
  | header :: separator :: more =>
    let border := hasBorder header
    let count := (cells border header).length
    let wide := count > 1 || (border && (separator :: more).all hasBorder)
    let columns := cells border separator
    if wide && columns.length == count &&
        columns.all (·.all fun c => List.elem c "|:- ".toList) then
      some ⟨border, columns.map alignment⟩
    else none
  | _ => none

def cell (tag : String) (column : Option String) (s : Text) : Element :=
  let e := Element.ofText tag (trimSpaces s)
  match column with
  | some side => e.set "style" ("text-align: ".toList ++ side.toList ++ [';'])
  | none => e

/-- A row of a table: one cell for each column, empty where the row has none. -/
def row (frame : Frame) (tag : String) (line : Text) : Element :=
  let found := cells frame.border (trimSpaces line)
  { tag := "tr"
    children := frame.columns.mapIdx fun i column => cell tag column (found[i]?.getD []) }

/-- A table. Without rows it has one row of empty cells. -/
def table : Rule := fun _ site => do
  let lines := linesOf site.block
  match frame? lines with
  | none => return none
  | some frame =>
    let body := match lines.drop 2 with
      | [] => [{ tag := "tr", children := frame.columns.map fun _ => { tag := "td" } }]
      | rows => rows.map (row frame "td")
    let head : Element := { tag := "thead", children := [row frame "th" (lines.headD [])] }
    let e : Element := { tag := "table", children := [head, { tag := "tbody", children := body }] }
    return some (site.parent.add e, site.rest)

end ContentFilters.Markdown.Block

import ContentFilters.Markdown.Mark

/-!
# Source of a Markdown document

The source is brought into one form before it is read: the control characters of marks are dropped,
every line ends in a line feed, tabs become spaces up to the next multiple of four columns, and
lines of nothing but spaces become empty. Blocks are what stands between empty lines. Most of what
belongs into a block of its parent is indented by four columns, which are taken off before it is
read.
-/
namespace ContentFilters.Markdown

def indentWidth : Nat := 4

def indent : Text := List.replicate indentWidth ' '

def isIndented (line : Text) : Bool := indent.isPrefixOf line

/-- A line without a number of indentations, if it has them. -/
def dropIndents (levels : Nat) (line : Text) : Text :=
  if (List.replicate (indentWidth * levels) ' ').isPrefixOf line
  then line.drop (indentWidth * levels) else line

def linesOf (s : Text) : List Text := Text.splitOn '\n' s

def ofLines (lines : List Text) : Text := Text.join ['\n'] lines

def outdent (levels : Nat) (s : Text) : Text := ofLines ((linesOf s).map (dropIndents levels))

/-- The lines at the start of a text that are indented or blank, without their indentation, and the
text after them. -/
def splitIndented (s : Text) : Text × Text :=
  let lines := linesOf s
  let belongs (line : Text) : Bool := isIndented line || Text.allBlank line
  let inner := (lines.takeWhile belongs).map fun line =>
    if isIndented line then line.drop indentWidth else []
  (ofLines inner, ofLines (lines.dropWhile belongs))

/-- The blocks of a text: the pieces between pairs of line feeds. -/
def blocksOf (s : Text) : List Text := Text.splitOnPattern ['\n', '\n'] s

def dropLineFeeds (s : Text) : Text := s.dropWhile (· = '\n')

def dropEndLineFeeds (s : Text) : Text := Text.dropEndWhile (· = '\n') s

def dropBlanks (s : Text) : Text := s.dropWhile Text.isBlank

def dropEndBlanks (s : Text) : Text := Text.dropEndWhile Text.isBlank s

def unifyLineEnds : Text → Text
  | '\r' :: '\n' :: rest => '\n' :: unifyLineEnds rest
  | '\r' :: rest => '\n' :: unifyLineEnds rest
  | c :: rest => c :: unifyLineEnds rest
  | [] => []

/-- A text, from a column on, with its tabs replaced by spaces. -/
def expandTabs (column : Nat) : Text → Text
  | [] => []
  | '\t' :: rest =>
    let width := indentWidth - column % indentWidth
    List.replicate width ' ' ++ expandTabs (column + width) rest
  | c :: rest => c :: expandTabs (if c = '\n' then 0 else column + 1) rest

/-- Lines with those of nothing but spaces emptied, the first one kept as it is. -/
def emptyBlankLines : List Text → List Text
  | [] => []
  | first :: rest => first :: rest.map fun line => if line.all (· = ' ') then [] else line

def normalizeSource (s : Text) : Text :=
  let s := s.filter fun c => c != Mark.opening && c != Mark.closing
  let s := expandTabs 0 (unifyLineEnds s ++ ['\n', '\n'])
  ofLines (emptyBlankLines (linesOf s))

end ContentFilters.Markdown

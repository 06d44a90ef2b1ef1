import ContentFilters.Filter.Basic
import ContentFilters.Html.Escape
import ContentFilters.Text.Lines
import ContentFilters.Value.Display

/-!
# Code blocks

The tag filter that shows its body as a block of code. It runs before markup, and everything it puts
into the block is escaped, so markup and later filters leave the block alone. The language, the line
numbers and the caption come from the tag's attributes; the first two fall back on options.
-/
namespace ContentFilters.Standard.CodeBlock

def data : Descriptor where
  moduleName := "textfilter.services.filters.macro_code"
  qualifiedName := "Code"
  typeName := "Code"
  kind := .preMarkup
  displayName := "Code"
  description := "Apply syntax-highlighting classes to code blocks"
  helpText :=
    "Wrap code in <publify:code lang=\"ruby\">...</publify:code>.  The body is HTML-escaped.  " ++
    "Add linenumber=\"true\" to number the lines and title=\"...\" for a caption."
  defaults := .object [
    ("linenumber", .object [("default", .str "false"),
      ("description", .str "Number every line of code")]),
    ("lang", .object [("default", .str ""),
      ("description", .str "Language used when the tag names none")])]

/-- The words that switch line numbers on, in lower case. -/
def onWords : List Text := ["on".toList, "1".toList, "true".toList, "yes".toList]

/-- Whether a character belongs to the layout of the tag when it stands at an end of the body. -/
def isLayout (c : Char) : Bool := c = '\r' || c = '\n'

/-- The lines of a body, at least one. -/
def codeLines (body : Text) : List Text :=
  match Text.lines (Text.trimWhile isLayout body) with
  | [] => [[]]
  | lines => lines

/-- A decimal numeral, padded with blanks on the left. -/
def padded (width n : Nat) : Text :=
  let digits := Nat.toDigits 10 n
  List.replicate (width - digits.length) ' ' ++ digits

/-- What stands before a numbered line. -/
def lineMark (width n : Nat) : Text :=
  "<span class=\"lineno\">".toList ++ padded width n ++ "</span> ".toList

/-- The lines with their numbers in front, from `n` on. -/
def numberFrom (width : Nat) : Nat → List Text → List Text
  | _, [] => []
  | n, line :: rest => (lineMark width n ++ line) :: numberFrom width (n + 1) rest

def code (numbered : Bool) (body : Text) : Text :=
  let lines := codeLines body
  let escaped := lines.map Html.escape
  let width := (Nat.toDigits 10 lines.length).length
  Text.join ['\n'] (if numbered then numberFrom width 1 escaped else escaped)

def classText (language : Text) : Text :=
  if language.isEmpty then []
  else " class=\"language-".toList ++ Html.escape language ++ ['"']

/-- A block without a caption. -/
def block (language : Text) (numbered : Bool) (body : Text) : Text :=
  "<pre><code".toList ++ classText language ++ ['>'] ++ code numbered body ++
    "</code></pre>".toList

/-- A block with its caption, if there is one. -/
def render (language : Text) (numbered : Bool) (caption body : Text) : Text :=
  if caption.isEmpty then block language numbered body
  else
    "<div class=\"codeblock\"><div class=\"codeblock-title\">".toList ++ Html.escape caption ++
      "</div>".toList ++ block language numbered body ++ "</div>".toList

/-- The text of an attribute, or of an option if the attribute is absent or empty. -/
def attributeOr (attributes : Tag.Attributes) (key : String) (fallback : Except FilterError Value) :
    Except FilterError Text :=
  match (Tag.Attributes.get? key.toList attributes).filter (!·.isEmpty) with
  | some v => .ok v
  | none => fallback.map Value.display

def switchesOn (s : Text) : Bool := onWords.contains (Text.lower s)

def replacement (attributes : Tag.Attributes) (body : Text) (params : Option FilterParams) :
    Except FilterError Text := do
  let language ← attributeOr attributes "lang" (data.optionValue params "lang")
  let number ← attributeOr attributes "linenumber" (data.optionValue params "linenumber")
  let caption := (Tag.Attributes.get? "title".toList attributes).getD []
  return render language (switchesOn number) caption body

def filter : Filter where
  data := data
  behavior := .expand fun attributes body params =>
    Action.ofExcept (replacement attributes body params)

end ContentFilters.Standard.CodeBlock

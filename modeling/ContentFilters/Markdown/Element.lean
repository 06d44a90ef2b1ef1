import ContentFilters.Text.Basic

/-!
# Elements of a Markdown document

A document is a tree of elements. Each element has the text before its first child and the tail that
stands after its end; both are prose, which is settled once nothing in it may be read as markup any
more. The names of the elements that stand in a line of their own are listed here too.
-/
namespace ContentFilters.Markdown

/-- A piece of text, and whether it is settled: no markup is read in it any more. -/
structure Prose where
  text : Text := []
  settled : Bool := false
  deriving Inhabited

def Prose.settle (s : Text) : Prose := ⟨s, true⟩

def Prose.isBlank (prose : Prose) : Bool := Text.allBlank prose.text

abbrev Attributes := List (Text × Text)

/-- Puts a value under a key: in its place if the key is there, else at the end. -/
def assign (key value : Text) : List (Text × Text) → List (Text × Text)
  | [] => [(key, value)]
  | entry :: rest =>
    if entry.1 == key then (key, value) :: rest else entry :: assign key value rest

structure Element where
  tag : String
  attributes : Attributes := []
  prose : Prose := {}
  children : List Element := []
  tail : Prose := {}
  deriving Inhabited

namespace Element

def ofText (tag : String) (s : Text) : Element := { tag := tag, prose := ⟨s, false⟩ }

def set (e : Element) (name : String) (value : Text) : Element :=
  { e with attributes := assign name.toList value e.attributes }

def get? (e : Element) (name : String) : Option Text := e.attributes.lookup name.toList

/-- The text before the first child replaced. -/
def withText (e : Element) (s : Text) : Element := { e with prose := ⟨s, false⟩ }

def withTail (e : Element) (s : Text) : Element := { e with tail := ⟨s, false⟩ }

def add (e child : Element) : Element := { e with children := e.children ++ [child] }

def last? (e : Element) : Option Element := e.children.getLast?

def setLast (e child : Element) : Element := { e with children := e.children.dropLast ++ [child] }

def lastTag? (e : Element) : Option String := e.last?.map (·.tag)

/-- Whether an element is a block of code: a preformatted element that begins with code. -/
def isCodeBlock (e : Element) : Bool :=
  e.tag == "pre" && (e.children.head?.map (·.tag)) == some "code"

mutual

def mapTree (change : Element → Element) (e : Element) : Element :=
  match e with
  | ⟨tag, attributes, prose, children, tail⟩ =>
    change ⟨tag, attributes, prose, mapTrees change children, tail⟩

def mapTrees (change : Element → Element) : List Element → List Element
  | [] => []
  | e :: rest => mapTree change e :: mapTrees change rest

end

mutual

/-- The text of an element and of all that stands in it. -/
def allText (e : Element) : Text :=
  match e with
  | ⟨_, _, prose, children, _⟩ => prose.text ++ allTexts children

def allTexts : List Element → Text
  | [] => []
  | ⟨_, _, prose, children, tail⟩ :: rest =>
    prose.text ++ allTexts children ++ tail.text ++ allTexts rest

end

end Element

/-! ## Kinds of elements -/

/-- The elements that stand in lines of their own. -/
def blockNames : List String :=
  ["address", "article", "aside", "blockquote", "details", "div", "dl", "fieldset", "figcaption",
    "figure", "footer", "form", "h1", "h2", "h3", "h4", "h5", "h6", "header", "hgroup", "hr",
    "main",
    "menu", "nav", "ol", "p", "pre", "section", "table", "ul", "canvas", "colgroup", "dd", "body",
    "dt", "group", "html", "iframe", "li", "legend", "math", "map", "noscript", "output", "object",
    "option", "progress", "script", "style", "summary", "tbody", "td", "textarea", "tfoot", "th",
    "thead", "tr", "video", "center"]

/-- Whether the name of an element, in any case and with slashes after it, is that of a block. -/
def isBlockName (name : Text) : Bool :=
  blockNames.contains
    (String.ofList ((Text.dropEndWhile (· = '/') name).map Text.lowerAscii))

def Element.isBlock (e : Element) : Bool := isBlockName e.tag.toList

def Element.isHeading (e : Element) : Bool := ["h1", "h2", "h3", "h4", "h5", "h6"].contains e.tag

end ContentFilters.Markdown

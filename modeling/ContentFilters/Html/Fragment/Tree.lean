import ContentFilters.Html.Fragment.Token

/-!
# The tree under construction

The elements of a fragment while its tree is built. Elements are kept in the order in which they
were made and refer to each other by their places there; the first is the root. Beside the elements
stand the stack of open elements, the innermost first, and the list of formatting elements that are
opened again when text follows them, the oldest first.

Text and elements are added at the innermost open element. Inside a table, where neither is allowed,
they are added in front of the table while `fosters` is set.
-/
namespace ContentFilters.Html.Fragment

inductive Child where
  | text (s : Text)
  | element (place : Nat)
  | comment
  deriving DecidableEq, Repr

structure Element where
  name : String
  attributes : Attributes := []
  parent : Option Nat := none
  children : List Child := []

/-- An entry in the list of formatting elements. -/
inductive Formatting where
  /-- The entries before a boundary do not reach behind it. -/
  | boundary
  | element (place : Nat)
  deriving DecidableEq, Repr

/-- The rules that the next token is treated by. -/
inductive Mode where
  | body
  | table
  /-- Text inside a table is collected; the mode it was found in is kept. -/
  | tableText (origin : Mode)
  | caption
  | columns
  | rowGroup
  | row
  | cell
  deriving DecidableEq, Repr

structure Tree where
  elements : Array Element := #[{ name := "html" }]
  opened : List Nat := [0]
  formatting : List Formatting := []
  mode : Mode := .body
  fosters : Bool := false
  /-- Whether a line end at the start of the innermost element is dropped. -/
  dropsLineEnd : Bool := false
  form : Option Nat := none
  /-- The text collected inside a table. -/
  collected : Text := []

/-- Elements that bound the search for an open element. -/
def scopeNames : List String :=
  ["applet", "caption", "html", "marquee", "object", "table", "td", "th"]

/-- Elements that are no mere formatting. -/
def specialNames : List String :=
  ["address", "applet", "area", "article", "aside", "base", "basefont", "bgsound", "blockquote",
    "body", "br", "button", "caption", "center", "col", "colgroup", "command", "dd", "details",
    "dir", "div", "dl", "dt", "embed", "fieldset", "figure", "footer", "form", "frame", "frameset",
    "h1", "h2", "h3", "h4", "h5", "h6", "head", "header", "hr", "html", "iframe", "image", "img",
    "input", "isindex", "li", "link", "listing", "marquee", "menu", "meta", "nav", "noembed",
    "noframes", "noscript", "object", "ol", "p", "param", "plaintext", "pre", "script", "section",
    "select", "style", "table", "tbody", "td", "textarea", "tfoot", "th", "thead", "title", "tr",
    "ul", "wbr", "xmp"]

/-- Elements that end where another begins. -/
def impliedNames : List String := ["dd", "dt", "li", "option", "optgroup", "p", "rp", "rt"]

def tablePartNames : List String := ["table", "tbody", "tfoot", "thead", "tr"]

def headingNames : List String := ["h1", "h2", "h3", "h4", "h5", "h6"]

namespace Tree

def element (t : Tree) (place : Nat) : Element := t.elements[place]?.getD { name := "" }

def nameAt (t : Tree) (place : Nat) : String := (t.element place).name

/-- The innermost open element. -/
def current (t : Tree) : Nat := t.opened.head?.getD 0

def currentName (t : Tree) : String := t.nameAt t.current

def modifyAt (t : Tree) (place : Nat) (f : Element → Element) : Tree :=
  { t with elements := t.elements.modify place f }

/-! ## Children -/

/-- Adds text behind some children; it joins text that is there already. -/
def appendText (s : Text) (children : List Child) : List Child :=
  match children.getLast? with
  | some (.text before) => children.dropLast ++ [.text (before ++ s)]
  | _ => children ++ [.text s]

/-- The children before an element and those from it on. -/
def splitAt (place : Nat) (children : List Child) : List Child × List Child :=
  children.span fun child => child != .element place

/-- Adds text to an element, in front of a child if one is given. -/
def addText (t : Tree) (parent : Nat) (before : Option Nat) (s : Text) : Tree :=
  if s.isEmpty then t
  else t.modifyAt parent fun e =>
    match before with
    | none => { e with children := appendText s e.children }
    | some place =>
      let (front, back) := splitAt place e.children
      { e with children := appendText s front ++ back }

/-- Adds an element that has no parent to another, in front of a child if one is given. -/
def attach (t : Tree) (parent : Nat) (before : Option Nat) (place : Nat) : Tree :=
  let t := t.modifyAt parent fun e =>
    match before with
    | none => { e with children := e.children ++ [.element place] }
    | some sibling =>
      let (front, back) := splitAt sibling e.children
      { e with children := front ++ .element place :: back }
  t.modifyAt place fun e => { e with parent := some parent }

/-- Takes an element from its parent. -/
def detach (t : Tree) (place : Nat) : Tree :=
  match (t.element place).parent with
  | none => t
  | some parent =>
    let t := t.modifyAt parent fun e =>
      { e with children := e.children.filter (· != .element place) }
    t.modifyAt place fun e => { e with parent := none }

/-- Makes an element that is not yet part of the tree. -/
def make (t : Tree) (name : String) (attributes : Attributes) : Tree × Nat :=
  ({ t with elements := t.elements.push { name := name, attributes := attributes } },
    t.elements.size)

/-- Makes an element with the name and the attributes of another. -/
def copy (t : Tree) (place : Nat) : Tree × Nat :=
  t.make (t.nameAt place) (t.element place).attributes

def moveChildren (t : Tree) (source target : Nat) : Tree :=
  let children := (t.element source).children
  let t := t.modifyAt source fun e => { e with children := [] }
  let t := t.modifyAt target fun e => { e with children := e.children ++ children }
  children.foldl (fun t child =>
    match child with
    | .element place => t.modifyAt place fun e => { e with parent := some target }
    | _ => t) t

/-- Where something is added that a table may not hold: the element around the innermost table, and
the table. -/
def fosterPlace (t : Tree) : Nat × Option Nat :=
  match t.opened.find? fun place => t.nameAt place == "table" with
  | none => (0, none)
  | some table =>
    match (t.element table).parent with
    | some parent => (parent, some table)
    | none => (((t.opened.dropWhile (· != table)).drop 1).head?.getD 0, none)

/-- Where text and elements are added next. -/
def nextPlace (t : Tree) : Nat × Option Nat :=
  if t.fosters && tablePartNames.contains t.currentName then t.fosterPlace else (t.current, none)

def insertText (t : Tree) (s : Text) : Tree :=
  let (parent, before) := t.nextPlace
  t.addText parent before s

def insert (t : Tree) (name : String) (attributes : Attributes) : Tree :=
  let (parent, before) := t.nextPlace
  let (t, place) := t.make name attributes
  let t := t.attach parent before place
  { t with opened := place :: t.opened }

def insertComment (t : Tree) : Tree :=
  t.modifyAt t.current fun e => { e with children := e.children ++ [.comment] }

/-! ## Open elements -/

def pop (t : Tree) : Tree := { t with opened := t.opened.drop 1 }

/-- Closes open elements up to and with the first that has a name. -/
def popThrough (t : Tree) (name : String) : Tree :=
  { t with opened := (t.opened.dropWhile fun place => t.nameAt place != name).drop 1 }

/-- Closes open elements up to the first that has one of some names. -/
def popTo (t : Tree) (names : List String) : Tree :=
  { t with opened := t.opened.dropWhile fun place => !names.contains (t.nameAt place) }

/-- Closes the elements that end by themselves, except those with a name. -/
def popImplied (t : Tree) (except : String) : Tree :=
  { t with opened := t.opened.dropWhile fun place =>
      impliedNames.contains (t.nameAt place) && t.nameAt place != except }

/-- Whether a search through open elements meets a target before a boundary. -/
def meets (t : Tree) (isTarget : Nat → Bool) (boundaries : List String) : List Nat → Bool
  | [] => false
  | place :: rest =>
    isTarget place || (!boundaries.contains (t.nameAt place) && meets t isTarget boundaries rest)

/-- Whether an element with a name is open, with nothing but other names around it. -/
def inScope (t : Tree) (name : String) (boundaries : List String := scopeNames) : Bool :=
  t.meets (t.nameAt · == name) boundaries t.opened

def inTableScope (t : Tree) (name : String) : Bool := t.inScope name ["html", "table"]

/-- Whether a paragraph is open that the next block ends. -/
def paragraphOpen (t : Tree) : Bool := t.inScope "p" ("button" :: scopeNames)

/-! ## Formatting elements -/

/-- Removes the first of the entries that are an element. -/
def dropFormatting (t : Tree) (place : Nat) : Tree :=
  { t with formatting := t.formatting.erase (.element place) }

/-- Removes the entries behind the last boundary, and the boundary. -/
def dropToBoundary (t : Tree) : Tree :=
  { t with formatting := (((t.formatting.reverse).dropWhile (· != .boundary)).drop 1).reverse }

/-- The entries behind the last boundary, the latest first. -/
def recentFormatting (t : Tree) : List Nat :=
  (t.formatting.reverse.takeWhile (· != .boundary)).filterMap fun
    | .element place => some place
    | .boundary => none

def formatting? (t : Tree) (name : String) : Option Nat :=
  t.recentFormatting.find? fun place => t.nameAt place == name

/-- Whether an entry has to be opened again. -/
def isLost (t : Tree) : Formatting → Bool
  | .boundary => false
  | .element place => !t.opened.contains place

/-- Opens the last formatting elements again that are not open any more. -/
def reopen (t : Tree) : Tree :=
  let lost := t.formatting.reverse.takeWhile t.isLost
  let kept := t.formatting.take (t.formatting.length - lost.length)
  lost.reverse.foldl (fun t entry =>
    match entry with
    | .boundary => t
    | .element place =>
      let e := t.element place
      let t := t.insert e.name e.attributes
      { t with formatting := t.formatting ++ [.element t.current] })
    { t with formatting := kept }

def alike (t : Tree) (a b : Nat) : Bool :=
  let x := t.element a
  let y := t.element b
  x.name == y.name && x.attributes.length == y.attributes.length &&
    x.attributes.all fun a => y.attributes.contains a

/-- Adds a formatting element and opens it. Of four alike the first is forgotten. -/
def insertFormatting (t : Tree) (name : String) (attributes : Attributes) : Tree :=
  let t := t.insert name attributes
  let place := t.current
  let same := t.recentFormatting.filter (t.alike · place)
  let t := match same.getLast? with
    | some first => if same.length = 3 then t.dropFormatting first else t
    | none => t
  { t with formatting := t.formatting ++ [.element place] }

end Tree

end ContentFilters.Html.Fragment

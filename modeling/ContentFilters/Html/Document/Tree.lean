import ContentFilters.Html.Document.Token
import ContentFilters.Value.Basic

/-!
# The tree of a document

Builds the tree of a document from its tokens, taking them as they come: an element reaches to its
end tag or to the end of the element around it, and an end tag without an open element is dropped.
Text that is blank is shortened to one character, except where blanks are kept.
-/
namespace ContentFilters.Html.Document

inductive AttributeValue where
  | text (s : Text)
  /-- A list of words. -/
  | words (list : List Text)
  /-- A value that was set since the document was read. -/
  | given (v : Value)

/-- The attributes of an element, each name once. -/
abbrev Attributes := List (Text × AttributeValue)

inductive Node where
  | text (s : Text)
  /-- What is written as it is: comments, declarations and the like. -/
  | verbatim (s : Text)
  | element (name : Text) (attributes : Attributes) (children : List Node)

/-- Elements that are written as one tag when they are empty. -/
def emptyNames : List Text :=
  ["area", "base", "br", "col", "embed", "hr", "img", "input", "keygen", "link", "menuitem", "meta",
    "param", "source", "track", "wbr", "basefont", "bgsound", "command", "frame", "image",
    "isindex", "nextid", "spacer"].map String.toList

/-- Elements that keep the blanks in them. -/
def preformattedNames : List Text := ["pre".toList, "textarea".toList]

/-- Attributes whose value is a list of words, by element. -/
def wordAttributes : List (String × List String) :=
  [("a", ["rel", "rev"]), ("link", ["rel", "rev"]), ("td", ["headers"]), ("th", ["headers"]),
    ("form", ["accept-charset"]), ("object", ["archive"]), ("area", ["rel"]), ("icon", ["sizes"]),
    ("iframe", ["sandbox"]), ("output", ["for"])]

/-- Attributes whose value is a list of words on every element. -/
def commonWordAttributes : List String := ["class", "accesskey", "dropzone"]

def holdsWords (tag name : Text) : Bool :=
  let name := String.ofList name
  commonWordAttributes.contains name ||
    wordAttributes.any fun (element, names) => element.toList == tag && names.contains name

/-- Sets an attribute: in place if it is there, else at the end. -/
def setAttribute (name : Text) (value : AttributeValue) : Attributes → Attributes
  | [] => [(name, value)]
  | (key, old) :: rest =>
    if key = name then (key, value) :: rest else (key, old) :: setAttribute name value rest

def attributeOf? (name : Text) (attributes : Attributes) : Option AttributeValue :=
  (attributes.find? (·.1 == name)).map (·.2)

def textOf? (name : Text) (attributes : Attributes) : Option Text :=
  match attributeOf? name attributes with
  | some (.text s) => some s
  | _ => none

/-- The words of an attribute that holds a list of them. Without the attribute there are none. -/
def wordsOf (name : Text) (attributes : Attributes) : List Text :=
  match attributeOf? name attributes with
  | some (.words list) => list
  | _ => []

def readValue (tag name value : Text) : AttributeValue :=
  if holdsWords tag name then .words (Text.words value) else .text value

/-- The attributes of an element as they were written; of two with one name the later counts. -/
def elementAttributes (tag : Text) (written : List (Text × Text)) : Attributes :=
  written.foldl (fun found (name, value) => setAttribute name (readValue tag name value) found) []

/-! ## Building -/

/-- An element that is open, with the children it has so far, the last one first. -/
structure Frame where
  name : Text
  attributes : Attributes
  children : List Node := []

structure Draft where
  /-- The open elements, the innermost first. -/
  opened : List Frame := []
  /-- The children of the document so far, the last one first. -/
  top : List Node := []
  /-- The text since the last tag, if there was any. -/
  pending : Option Text := none
  /-- Empty elements whose end tag, should it come, is overlooked. -/
  alreadyClosed : List Text := []

namespace Draft

/-- Adds a node to the innermost element. -/
def add (d : Draft) (node : Node) : Draft :=
  match d.opened with
  | frame :: rest => { d with opened := { frame with children := node :: frame.children } :: rest }
  | [] => { d with top := node :: d.top }

/-- The blank characters that are shortened. -/
def isBlank (c : Char) : Bool :=
  c = ' ' || c = '\n' || c = '\t' || c.toNat = 0xC || c = '\r'

/-- A text as it is kept: blank text becomes a line end, if it holds one, or a single blank. -/
def keptText (d : Draft) (s : Text) : Text :=
  if d.opened.any (preformattedNames.contains ·.name) || !s.all isBlank then s
  else if List.elem '\n' s then ['\n'] else [' ']

/-- Adds the text since the last tag to the tree. -/
def flush (d : Draft) : Draft :=
  match d.pending with
  | none => d
  | some s => { d with pending := none }.add (.text (d.keptText s))

/-- Adds something that is written as it is. -/
def addVerbatim (d : Draft) (front : String) (s : Text) (back : String) : Draft :=
  let d := d.flush
  d.add (.verbatim (front.toList ++ d.keptText s ++ back.toList))

def push (d : Draft) (name : Text) (attributes : Attributes) : Draft :=
  let d := d.flush
  { d with opened := { name := name, attributes := attributes } :: d.opened }

def pop (d : Draft) : Draft :=
  match d.opened with
  | frame :: rest =>
    { d with opened := rest }.add (.element frame.name frame.attributes frame.children.reverse)
  | [] => d

def popMany : Nat → Draft → Draft
  | 0, d => d
  | count + 1, d => popMany count d.pop

/-- Closes the innermost element with a name and all elements in it, if there is one. -/
def closeNamed (d : Draft) (name : Text) : Draft :=
  let d := d.flush
  match d.opened.findIdx? (·.name == name) with
  | some i => d.popMany (i + 1)
  | none => d

def finish (d : Draft) (name : Text) : Draft :=
  if d.alreadyClosed.contains name then { d with alreadyClosed := d.alreadyClosed.erase name }
  else d.closeNamed name

def start (d : Draft) (name : Text) (written : List (Text × Text)) (closed : Bool) : Draft :=
  let d := d.push name (elementAttributes name written)
  if closed then d.finish name
  else if emptyNames.contains name then
    let d := d.closeNamed name
    { d with alreadyClosed := d.alreadyClosed ++ [name] }
  else d

def take (d : Draft) : Token → Draft
  | .text s => { d with pending := some (d.pending.getD [] ++ s) }
  | .startTag name written closed => d.start name written closed
  | .endTag name => d.finish name
  | .comment s => d.addVerbatim "<!--" s "-->"
  | .documentType s => d.addVerbatim "<!DOCTYPE " s ">\n"
  | .characterData s => d.addVerbatim "<![CDATA[" s "]]>"
  | .declaration s => d.addVerbatim "<?" s "?>"
  | .instruction s => d.addVerbatim "<?" s ">"

end Draft

def nodes (tokens : List Token) : List Node :=
  let d := (tokens.foldl Draft.take {}).flush
  (d.popMany d.opened.length).top.reverse

end ContentFilters.Html.Document

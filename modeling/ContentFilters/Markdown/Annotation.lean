import ContentFilters.Markdown.AttributeList

/-!
# Attribute lists in a document

A list in the last line of a block belongs to the block; in headings, terms and cells it stands at
the end of the line. A list right behind an element inside of a line belongs to that element.
-/
namespace ContentFilters.Markdown.Annotation

open Text (Pattern)

/-- Takes the list that a pattern finds off a text and sets its entries. Nothing is done if the list
does not end at its first closing brace. -/
def takeList (pattern : Pattern) (s : Text) (e : Element) : Option (Text × Element) :=
  match pattern.find? s with
  | none => none
  | some found =>
    let (entries, rest) := AttributeList.read (found.part 1)
    if rest.isEmpty then some (found.before, AttributeList.setAll entries e) else none

/-- The text of a heading without the number signs at its end. -/
def dropSigns (e : Element) (s : Text) : Text :=
  if e.isHeading then Text.dropEndWhile Text.isBlank (Text.dropEndWhile (· = '#') s) else s

/-- An element with a list taken off its own text. -/
def fromText (pattern : Pattern) (clean : Text → Text) (e : Element) : Element :=
  match takeList pattern e.prose.text e with
  | some (s, e) => e.withText (clean s)
  | none => e

/-- An element with a list taken off the tail of the child with an index. -/
def fromTail (pattern : Pattern) (clean : Text → Text) (index : Nat) (e : Element) : Element :=
  match e.children[index]? with
  | none => e
  | some child =>
    match takeList pattern child.tail.text e with
    | some (s, e) => { e with children := e.children.set index (child.withTail (clean s)) }
    | none => e

def hasTail (index : Nat) (e : Element) : Bool :=
  (e.children[index]?.map fun child => !child.tail.text.isEmpty).getD false

/-- The list of a block. In an item of a list it stands before the first list in the item. -/
def annotateBlock (e : Element) : Element :=
  let pattern :=
    if e.isHeading || ["dt", "td", "th"].contains e.tag then AttributeList.atEndOfHeading
    else AttributeList.inLastLine
  let last := e.children.length - 1
  if e.tag == "li" && !e.children.isEmpty then
    match e.children.findIdx? fun child => child.tag == "ul" || child.tag == "ol" with
    | none =>
      if hasTail last e then fromTail pattern id last e else fromText pattern id e
    | some i =>
      if i > 0 && hasTail (i - 1) e then fromTail pattern id (i - 1) e else fromText pattern id e
  else if hasTail last e then fromTail pattern (dropSigns e) last e
  else fromText pattern (dropSigns e) e

/-- The list right behind an element. It ends at its first closing brace. -/
def annotateInline (e : Element) : Element :=
  match AttributeList.braced.match? e.tail.text with
  | none => e
  | some found =>
    let (entries, rest) := AttributeList.read (found.part 1)
    let kept := if rest.isEmpty then found.after
      else rest.drop 1 ++ ['\x7d'] ++ found.after
    (AttributeList.setAll entries e).withTail kept

def annotate (e : Element) : Element := if e.isBlock then annotateBlock e else annotateInline e

def inDocument (root : Element) : Element := root.mapTree annotate

end ContentFilters.Markdown.Annotation

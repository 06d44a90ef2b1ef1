import ContentFilters.Markdown.Notes
import ContentFilters.Text.LowerCase

/-!
# HTML elements with Markdown inside

An HTML block may ask for its content to be read as Markdown: as blocks, or as the content of a
line. While such an element is open its content is collected level by level. When the outermost one
ends, every element that stood inside is set aside and its mark is put into the text of its parent,
between empty lines, so that the content can be read like any other text.
-/
namespace ContentFilters.Markdown.RawHtml

inductive Content where
  | blocks
  | line
  /-- As it is. -/
  | raw
  deriving DecidableEq, Repr

def emptyNames : List String := ["hr"]

/-- Elements whose content can only be that of a line. -/
def lineNames : List String :=
  ["address", "dd", "dt", "h1", "h2", "h3", "h4", "h5", "h6", "legend", "li", "p", "summary", "td",
    "th"]

def rawNames : List String := ["canvas", "math", "option", "pre", "script", "style", "textarea"]

def holdsBlocks (name : String) : Bool :=
  blockNames.contains name && !lineNames.contains name && !rawNames.contains name &&
    !emptyNames.contains name

/-- The name of the attribute by which an element asks for its content to be read. -/
def request : String := "markdown"

def Content.toText : Content → Text
  | blocks => "block".toList
  | line => "span".toList
  | raw => "off".toList

def noted (e : Element) : Content :=
  match (e.get? request).map String.ofList with
  | some "block" => .blocks
  | some "span" => .line
  | _ => .raw

def dropRequest (e : Element) : Element :=
  { e with attributes := e.attributes.filter fun (key, _) => key != request.toList }

/-- How the content of an element is read, given the way its parent is read. An element cannot ask
for more than its parent allows. -/
def contentOf (parent : Option Content) (name : String) (attributes : Attributes) : Content :=
  let wish := ((attributes.lookup request.toList).map String.ofList).getD "0"
  let wish := if wish == "markdown" then "1" else wish
  let wish := match parent with
    | some .raw => "off"
    | some .line => if wish == "0" then wish else "span"
    | _ => wish
  let line := lineNames.contains name
  let blocks := holdsBlocks name
  if (wish == "1" && blocks) || (wish == "block" && (blocks || line)) then .blocks
  else if (wish == "1" && line) || (wish == "span" && (blocks || line)) then .line
  else .raw

structure Level where
  content : Content
  /-- Whether nothing but tags has been read in the element. -/
  fresh : Bool := true
  element : Element

def addText (s : Text) (e : Element) : Element :=
  match e.last? with
  | none => { e with prose := { text := e.prose.text ++ s } }
  | some child => e.setLast { child with tail := { text := child.tail.text ++ s } }

def addToInnermost (s : Text) : List Level → List Level
  | [] => []
  | level :: outer => { level with fresh := false, element := addText s level.element } :: outer

/-- Ends open elements up to the innermost one with a name. The result is the elements still open,
and the outermost one if none is. -/
def endElement (name : String) : List Level → List Level × Option Element
  | [] => ([], none)
  | level :: outer =>
    match outer with
    | [] => ([], some level.element)
    | parent :: rest =>
      let closed := { parent with element := parent.element.add level.element } :: rest
      if level.element.tag == name then (closed, none) else endElement name closed
termination_by levels => levels.length

/-- The text of an element with the mark of a child and its tail behind it. -/
def withChildMark (s mark tail : Text) : Text :=
  let blank := ['\n', '\n']
  let before := if blank.isSuffixOf s then s else Text.dropEndWhile (· = '\n') s ++ blank
  let after := if tail == ['\n'] then tail else '\n' :: Text.dropEndWhile (· = '\n') tail
  before ++ mark ++ after

mutual

/-- Replaces the elements in an element by marks. Those whose content is not read stay whole. -/
def flatten (e : Element) : Noting Element :=
  match e with
  | ⟨tag, attributes, prose, children, tail⟩ => do
    let s ← flattenChildren prose.text children
    return ⟨tag, attributes, { text := s }, [], tail⟩

/-- The text of an element with the marks of its children. -/
def flattenChildren (s : Text) : List Element → Noting Text
  | [] => return s
  | ⟨tag, attributes, prose, inner, tail⟩ :: rest => do
    let child : Element := ⟨tag, attributes, prose, inner, {}⟩
    let child ←
      if noted child == .raw then pure (child.mapTree dropRequest)
      else do
        let s ← flattenChildren prose.text inner
        pure ⟨tag, attributes, { text := s }, [], {}⟩
    let mark ← keepHtml (.element child)
    flattenChildren (withChildMark s mark tail.text) rest

end

end ContentFilters.Markdown.RawHtml

import ContentFilters.Html.Document.Tree
import ContentFilters.Value.Display

/-!
# Writing a document

The attributes of an element are written in the order of their names, and words with single blanks
between them. Markup characters are escaped in text and in values, except in the text of scripts and
style sheets. An empty element that needs no end tag is written as one tag with a slash. A document
as it was read can always be written; a list that was set as a value must hold nothing but strings.
-/
namespace ContentFilters.Html.Document

def escapeText (s : Text) : Text :=
  s.flatMap fun c =>
    if c = '&' then "&amp;".toList
    else if c = '<' then "&lt;".toList
    else if c = '>' then "&gt;".toList
    else [c]

/-- A value in quotes: single ones if it holds a double quote and no single one. -/
def quotedValue (s : Text) : Text :=
  if List.elem '"' s && !List.elem '\'' s then '\'' :: s ++ ['\'']
  else '"' :: (s.flatMap fun c => if c = '"' then "&quot;".toList else [c]) ++ ['"']

/-- The text of a value. The strings of a list are its words. -/
def AttributeValue.shown? : AttributeValue → Option Text
  | .text s => some s
  | .words list => some (Text.join [' '] list)
  | .given (.list items) => do
    let words ← items.mapM fun item =>
      match item with
      | .str s => some s.toList
      | _ => none
    return Text.join [' '] words
  | .given v => some v.display

/-- The written attributes of an element, if all their values have a text. -/
def writtenAttributes? (attributes : Attributes) : Option Text := do
  let sorted := attributes.mergeSort fun a b => Text.precedes a.1 b.1
  let written ← sorted.mapM fun (name, value) => do
    return ' ' :: name ++ '=' :: quotedValue (escapeText (← value.shown?))
  return written.flatten

/-- Elements whose text is not escaped. -/
def rawNames : List Text := ["script".toList, "style".toList]

mutual

/-- A written node; `raw` says whether its text is left as it is. -/
def writeNode? (raw : Bool) : Node → Option Text
  | .text s => some (if raw then s else escapeText s)
  | .verbatim s => some s
  | .element name attributes children => do
    let start := '<' :: name ++ (← writtenAttributes? attributes)
    let inner ← writeNodes? (rawNames.contains name) children
    return if children.isEmpty && emptyNames.contains name then start ++ ['/', '>']
      else start ++ '>' :: inner ++ '<' :: '/' :: name ++ ['>']

def writeNodes? (raw : Bool) : List Node → Option Text
  | [] => some []
  | node :: rest => do return (← writeNode? raw node) ++ (← writeNodes? raw rest)

end

/-- The written form of a document, if all values in it have a text. -/
def write? (nodes : List Node) : Option Text := writeNodes? false nodes

end ContentFilters.Html.Document

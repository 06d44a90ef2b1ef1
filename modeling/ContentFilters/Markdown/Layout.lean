import ContentFilters.Markdown.Element
import ContentFilters.Markdown.Mark

/-!
# Layout of a document

Blocks are written on lines of their own, a line break ends a line, and code ends with exactly one
line feed. The characters that were escaped are put back in all but code.
-/
namespace ContentFilters.Markdown.Layout

def lineFeed : Prose := { text := ['\n'] }

mutual

/-- A block on a line of its own, with the blocks in it. -/
def breakLines (e : Element) : Element :=
  match e with
  | ⟨tag, attributes, prose, children, tail⟩ =>
    let here : Element := ⟨tag, attributes, prose, children, tail⟩
    let beginsWithBlock := (children.head?.map (·.isBlock)).getD false
    let inner : Element :=
      if here.isBlock && tag != "pre" && tag != "code" then
        ⟨tag, attributes, if prose.isBlank && beginsWithBlock then lineFeed else prose,
          breakAll children, tail⟩
      else here
    { inner with tail := if tail.isBlank then lineFeed else tail }

def breakAll : List Element → List Element
  | [] => []
  | e :: rest => (if e.isBlock then breakLines e else e) :: breakAll rest

end

/-- A line break that ends its line; other elements are left as they are. -/
def endLine (e : Element) : Element :=
  if e.tag == "br" then e.withTail (if e.tail.isBlank then ['\n'] else '\n' :: e.tail.text) else e

/-- Code without blanks at its end, but for a line feed; other elements are left as they are. -/
def endCode (e : Element) : Element :=
  match e.tag == "pre", e.children with
  | true, code :: others =>
    if code.tag == "code" && code.children.isEmpty && !code.prose.text.isEmpty then
      let s := Text.dropEndWhile Text.isBlank code.prose.text ++ ['\n']
      { e with children := { code with prose := .settle s } :: others }
    else e
  | _, _ => e

def inDocument (root : Element) : Element :=
  (breakLines root).mapTree fun e => endCode (endLine e)

def restore (prose : Prose) : Prose := { prose with text := Mark.restoreEscaped prose.text }

/-- An element with the escaped characters put back, but for the text of code. -/
def restoreEscaped (e : Element) : Element :=
  { e with
    prose := if e.tag == "code" then e.prose else restore e.prose
    tail := restore e.tail
    attributes := e.attributes.map fun (name, value) => (name, Mark.restoreEscaped value) }

def restoreDocument (root : Element) : Element := root.mapTree restoreEscaped

end ContentFilters.Markdown.Layout

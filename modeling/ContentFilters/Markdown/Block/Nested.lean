import ContentFilters.Markdown.Block.Basic
import ContentFilters.Markdown.RawHtml.Nest

/-!
# Markdown inside HTML

Where a block begins with the mark of an HTML element that asks for its content to be read, the
element takes its place in the document. Its content is read as blocks, or kept for the reading of
lines with the elements in it put back; the content of an element that asks for nothing is settled.
-/
namespace ContentFilters.Markdown.Block

open RawHtml (Content dropRequest noted)

/-- The number of the HTML whose mark begins a text, and the text after it. -/
def htmlMark? (s : Text) : Option (Nat × Text) :=
  match Mark.first? s with
  | some (.html n, after) => some (n, after)
  | _ => none

/-- An element in which no markup is read any more. -/
def settle (e : Element) : Element :=
  { e.mapTree fun inner =>
      { inner with
        prose := .settle inner.prose.text
        tail := if inner.tail.text.isEmpty then inner.tail else .settle inner.tail.text }
    with tail := e.tail }

/-- The pieces of a text before the marks of HTML, each with the number of the mark, and the text
after the last mark. `budget` bounds the pieces. -/
def splitAtHtml : Nat → Text → Text → List (Text × Nat) × Text
  | 0, passed, s => ([], passed.reverse ++ s)
  | budget + 1, passed, s =>
    match htmlMark? s, s with
    | some (n, after), _ =>
      let (more, last) := splitAtHtml budget [] after
      ((passed.reverse, n) :: more, last)
    | none, [] => ([], passed.reverse)
    | none, c :: rest => splitAtHtml budget (c :: passed) rest

/-- Reads the content of an element that was set aside. `budget` bounds the elements in it. -/
def readContent (read : Read) (around : Surroundings) : Nat → Element → Noting Element
  | 0, e => return e
  | budget + 1, e => do
    let content := noted e
    let e := dropRequest e
    match content with
    | .raw => return settle e
    | .blocks =>
      let s := dropEndLineFeeds e.prose.text
      if e.prose.text.isEmpty then return e
      read around (e.withText []) (blocksOf s)
    | .line =>
      let s := e.prose.text
      let (pieces, last) := splitAtHtml (s.length + 1) [] s
      let e ← pieces.foldlM (fun e (before, n) => do
        let e := RawHtml.addText before e
        match (← get).htmlElement? n with
        | some child =>
          takeHtml n
          return e.add (← readContent read around budget child)
        | none => return RawHtml.addText (Mark.html n).toText e) (e.withText [])
      return RawHtml.addText last e

/-- An HTML element that was set aside, at the start of a block. -/
def nested : Rule := fun read site => do
  match htmlMark? site.block with
  | none => return none
  | some (n, after) =>
    let notes ← get
    match notes.htmlElement? n with
    | none => return none
    | some e =>
      takeHtml n
      let e ← readContent read site.around (notes.html.size + 1) e
      return some (site.parent.add e, putBack after site.rest)

end ContentFilters.Markdown.Block

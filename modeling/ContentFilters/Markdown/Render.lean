import ContentFilters.Markdown.Abbreviation
import ContentFilters.Markdown.Annotation
import ContentFilters.Markdown.Fence
import ContentFilters.Markdown.Footnote
import ContentFilters.Markdown.Layout
import ContentFilters.Markdown.RawHtml.Extract

/-!
# Rendering Markdown

A document is read in stages. The source is brought into one form; fenced code and HTML blocks are
set aside; what remains is read block by block, and then the lines of the blocks are read. The
document is completed with its footnotes, attributes and abbreviations and written, and last of all
what was set aside is put in its place.
-/
namespace ContentFilters.Markdown

/-! ## Putting HTML back -/

/-- Whether HTML begins with the tag of a block, or with something that is no element. -/
def beginsWithBlock (s : Text) : Bool :=
  match s with
  | '<' :: rest =>
    let endsName (c : Char) : Bool := c = ' ' || c = '>'
    let inner := if rest.head? == some '/' then rest.drop 1 else rest
    let name := inner.takeWhile (!endsName ·)
    match name with
    | [] => false
    | c :: _ => List.elem c ['!', '?', '@', '%'] || isBlockName name
  | _ => false

def Notes.writtenHtml (notes : Notes) (n : Nat) : Text :=
  match notes.html[n]? with
  | some (.text s) => s
  | some (.element e) => write e
  | none => []

def paragraphTags : Text × Text := ("<p>".toList, "</p>".toList)

/-- Joins pieces of a text with the HTML whose marks stand between them; marks in the HTML are
replaced by `inner`. A paragraph of nothing but a block is replaced by the block. `passed` is the
number of characters of the first piece that have been dealt with. -/
def joinHtml (notes : Notes) (inner : Text → Text) (passed : Nat) :
    List (Text × Nat) → Text → Text
  | [], last => last.drop passed
  | (before, n) :: pieces, last =>
    let before := before.drop passed
    let (start, stop) := paragraphTags
    let written := notes.writtenHtml n
    let after := (pieces.head?.map (·.1)).getD last
    if start.isSuffixOf before && stop.isPrefixOf after then
      let shown := if beginsWithBlock written then written else start ++ written ++ stop
      before.take (before.length - start.length) ++ inner shown ++
        joinHtml notes inner stop.length pieces last
    else before ++ inner written ++ joinHtml notes inner 0 pieces last

/-- Puts HTML in the place of its marks in a text. `budget` bounds the depth of marks in HTML that
was set aside. -/
def putHtml (notes : Notes) : Nat → Text → Text
  | 0, s => s
  | budget + 1, s =>
    let (pieces, last) := Block.splitAtHtml (s.length + 1) [] s
    joinHtml notes (putHtml notes budget) 0 pieces last

/-- The signs that are written at the very end. -/
def putSigns (s : Text) : Text :=
  Mark.resolve (fun mark => match mark with
    | .backArrow => some "&#8617;".toList
    | .firmSpace => some "&#160;".toList
    | .ampersand => some ['&']
    | _ => none) s

/-! ## Documents -/

def readDocument (features : Features) (s : Text) : Noting Element := do
  let s := normalizeSource s
  let extent := s.length
  let s ← if features.fences then Fence.setAsideAll features s else pure s
  let s ← RawHtml.setAsideAll features.nestedMarkup s
  let root ← Block.readText features extent { tag := "div" } s
  let root ← if features.footnotes then Footnote.addList features extent root else pure root
  Inline.readTree features (2 * extent + 64) root

def complete (features : Features) (notes : Notes) (root : Element) : Element :=
  let root := root.mapTree (Footnote.orderList notes)
  let root := Layout.inDocument root
  let root := if features.attributeLists then Annotation.inDocument root else root
  Layout.restoreDocument (Abbreviation.inDocument notes root)

def render (features : Features) (s : Text) : Text :=
  if Text.allBlank s then []
  else
    let (root, notes) := (readDocument features s).run {}
    let content := Text.trim (writeContent (complete features notes root))
    Text.trim (putSigns (putHtml notes (notes.html.size + 1) content))

end ContentFilters.Markdown

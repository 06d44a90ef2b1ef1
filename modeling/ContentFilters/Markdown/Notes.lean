import ContentFilters.Markdown.Element
import ContentFilters.Markdown.Mark

/-!
# Notes on a document

While a document is read some things are noted for later: what was set aside behind a mark, where
the references of links lead, what abbreviations mean, and the footnotes with their mentions.
-/
namespace ContentFilters.Markdown

inductive Kept where
  | text (s : Text)
  | element (e : Element)
  deriving Inhabited

structure Target where
  address : Text
  title : Option Text := none

structure Notes where
  /-- The HTML set aside, by number. -/
  html : Array Kept := #[]
  /-- The pieces of lines set aside, by number. -/
  pieces : Array Kept := #[]
  /-- The targets of references, the latest first. -/
  targets : List (Text × Target) := []
  /-- The abbreviations with their meanings. -/
  abbreviations : List (Text × Text) := []
  /-- The footnotes by name. -/
  footnotes : List (Text × Text) := []
  /-- The names of the footnotes mentioned, once for each mention, the latest first. -/
  mentions : List Text := []

abbrev Noting := StateM Notes

/-- Sets HTML aside and gives the mark for it. -/
def keepHtml (kept : Kept) : Noting Text := do
  let notes ← get
  set { notes with html := notes.html.push kept }
  return (Mark.html notes.html.size).toText

/-- Takes back HTML that was set aside; nothing is left behind the mark. -/
def takeHtml (n : Nat) : Noting Unit :=
  modify fun notes => { notes with html := notes.html.setIfInBounds n (.text []) }

def Notes.htmlElement? (notes : Notes) (n : Nat) : Option Element :=
  match notes.html[n]? with
  | some (.element e) => some e
  | _ => none

/-- Sets a piece of a line aside and gives the mark for it. -/
def keepPiece (kept : Kept) : Noting Text := do
  let notes ← get
  set { notes with pieces := notes.pieces.push kept }
  return (Mark.piece notes.pieces.size).toText

/-- A text with the pieces that were set aside put back as plain text. -/
def Notes.withPieces (notes : Notes) (s : Text) : Text :=
  Mark.resolve (fun mark => match mark with
    | .piece n => notes.pieces[n]?.map fun kept => match kept with
      | .text t => t
      | .element e => e.allText
    | _ => none) s

/-- The names of the footnotes in the order of their first mentions. -/
def Notes.mentioned (notes : Notes) : List Text := notes.mentions.reverse.eraseDups

def Notes.mentionCount (notes : Notes) (name : Text) : Nat := notes.mentions.count name

end ContentFilters.Markdown

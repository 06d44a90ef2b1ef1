import ContentFilters.Markdown.Block.Basic

/-!
# Definitions

A line that begins with a colon defines the terms in the lines before it. If an empty line stands
between them, the terms are those of the paragraph before, and the definition holds paragraphs.
-/
namespace ContentFilters.Markdown.Block

open Text (Pattern)

/-- A line that begins with a colon; its first part is the text. -/
def definitionLine : Pattern :=
  .inOrder [.alt .atStart (.one (· = '\n')), .between 0 3 (.one (· = ' ')), .one (· = ':'),
    .between 1 3 (.one (· = ' ')), .part 1 (.few .inLine), .alt (.one (· = '\n')) .atLastLineEnd]

def plainLine : Pattern := .seq (.between 0 3 (.one (· = ' '))) (.noneOf " :")

def addTerms (terms : List Text) (list : Element) : Element :=
  terms.foldl (fun list term => list.add (.ofText "dt" term)) list

/-- Whether the last definition of a list holds blocks, and not only text. -/
def endsInBlocks (list : Element) : Bool :=
  (list.last?.map fun last => last.tag == "dd" && !last.children.isEmpty).getD false

def definition : Rule := fun read site => do
  match definitionLine.find? site.block with
  | none => return none
  | some found =>
    let terms := ((linesOf found.before).filter (!Text.allBlank ·)).map Text.trim
    let (more, after) :=
      if plainLine.startsWith found.after then (found.after, []) else splitIndented found.after
    let s := if more.isEmpty then found.part 1 else found.part 1 ++ '\n' :: more
    let previous := site.parent.last?
    if terms.isEmpty && previous.isNone then return none
    let paragraph := previous.filter fun last => terms.isEmpty && last.tag == "p"
    let (parent, terms) := match paragraph with
      | some p =>
        ({ site.parent with children := site.parent.children.dropLast }, linesOf p.prose.text)
      | none => (site.parent, terms)
    let list := parent.last?.filter (·.tag == "dl")
    let loose := paragraph.isSome ||
      (terms.isEmpty && (list.map endsInBlocks).getD false)
    let around : Surroundings := if loose then .looseList else .tightList
    let entry ← read around { tag := "dd" } [s]
    let rest := putBack after site.rest
    match list with
    | some list => return some (parent.setLast ((addTerms terms list).add entry), rest)
    | none => return some (parent.add ((addTerms terms { tag := "dl" }).add entry), rest)

end ContentFilters.Markdown.Block

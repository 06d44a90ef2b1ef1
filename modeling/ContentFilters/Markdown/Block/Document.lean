import ContentFilters.Markdown.Block.Declaration
import ContentFilters.Markdown.Block.Definition
import ContentFilters.Markdown.Block.Heading
import ContentFilters.Markdown.Block.List
import ContentFilters.Markdown.Block.Nested
import ContentFilters.Markdown.Block.Table

/-!
# Reading blocks

The rules for blocks in the order in which they are tried, and the reading of a text by them. Each
rule takes something away from the blocks that remain, so the length of the text bounds the reading.
-/
namespace ContentFilters.Markdown.Block

/-- A rule that is tried only if a feature is chosen. -/
def ifChosen (chosen : Bool) (rule : Rule) : List Rule := if chosen then [rule] else []

/-- The rules in the order in which they are tried. -/
def rules (features : Features) : List Rule :=
  ifChosen features.nestedMarkup nested ++ [emptyLine, indentedBlock plainLists] ++
    ifChosen features.definitions (indentedBlock definitionLists) ++ [code] ++
    ifChosen features.tables table ++
    [signedHeading, underlinedHeading, ruler, list (numbered features.strictLists),
      list (bulleted features.strictLists)] ++
    ifChosen features.definitions definition ++ [quotation] ++
    ifChosen features.footnotes footnote ++ ifChosen features.abbreviations abbreviation ++
    [target, paragraph]

def firstOutcome (read : Read) (site : Site) : List Rule → Noting Outcome
  | [] => return none
  | rule :: others => do
    match ← rule read site with
    | some outcome => return some outcome
    | none => firstOutcome read site others

def readBlocks (features : Features) : Nat → Read
  | 0, _, parent, _ => return parent
  | _, _, parent, [] => return parent
  | budget + 1, around, parent, block :: rest => do
    let read := readBlocks features budget
    match ← firstOutcome read ⟨around, parent, block, rest⟩ (rules features) with
    | some (parent, rest) => read around parent rest
    | none => read around parent rest

/-- Reads a text and adds what it holds to a parent. `extent` is the length of the whole source. -/
def readText (features : Features) (extent : Nat) (parent : Element) (s : Text) :
    Noting Element :=
  readBlocks features (4 * (extent + s.length) + 64) .document parent (blocksOf s)

end ContentFilters.Markdown.Block

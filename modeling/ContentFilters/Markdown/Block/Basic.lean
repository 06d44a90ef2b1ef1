import ContentFilters.Markdown.Escape
import ContentFilters.Markdown.Feature
import ContentFilters.Markdown.Notes
import ContentFilters.Markdown.Source
import ContentFilters.Text.Pattern

/-!
# Blocks

A document is read block by block. At each block some rules are tried in order; the first that
applies adds elements to the parent and gives back the blocks that remain. A rule may read blocks of
its own, with another parent and in other surroundings. The rules here are those for empty blocks,
for indented code and for paragraphs.
-/
namespace ContentFilters.Markdown.Block

inductive Surroundings where
  | document
  /-- An item of a list without empty lines between the items. -/
  | tightList
  /-- An item of a list after an empty line. -/
  | looseList
  /-- A block whose indentation has been taken off. -/
  | indented
  | quotation
  deriving DecidableEq, Repr

/-- Reads blocks and adds what they hold to a parent. -/
abbrev Read := Surroundings → Element → List Text → Noting Element

structure Site where
  around : Surroundings
  parent : Element
  block : Text
  /-- The blocks after it. -/
  rest : List Text

/-- What a rule leads to: the parent with what was added, and the blocks that remain. -/
abbrev Outcome := Option (Element × List Text)

/-- A rule for a kind of block. It gives nothing if it does not apply. -/
abbrev Rule := Read → Site → Noting Outcome

/-- Blocks with a text before them, if it is not empty. -/
def putBack (s : Text) (rest : List Text) : List Text := if s.isEmpty then rest else s :: rest

def putBackUnlessBlank (s : Text) (rest : List Text) : List Text :=
  if Text.allBlank s then rest else s :: rest

def changeCode (change : Text → Text) (e : Element) : Element :=
  match e.children with
  | code :: others =>
    { e with children := { code with prose := .settle (change code.prose.text) } :: others }
  | [] => e

def lastCode? (e : Element) : Option Element := e.last?.filter (·.isCodeBlock)

def extendCode (parent : Element) (lineFeeds : Text) : Element :=
  match lastCode? parent with
  | some code => parent.setLast (changeCode (· ++ lineFeeds) code)
  | none => parent

/-- An empty block, or a line feed before the block. After code it is part of the code. -/
def emptyLine : Rule := fun _ site =>
  match site.block with
  | [] => return some (extendCode site.parent ['\n', '\n'], site.rest)
  | '\n' :: more => return some (extendCode site.parent ['\n'], putBack more site.rest)
  | _ => return none

/-- Indented code. An empty line does not end it. -/
def code : Rule := fun _ site => do
  if !isIndented site.block then return none
  let (inner, after) := splitIndented site.block
  let written := escapeCode (dropEndBlanks inner) ++ ['\n']
  let parent := match lastCode? site.parent with
    | some code => site.parent.setLast (changeCode (· ++ '\n' :: written) code)
    | none =>
      site.parent.add
        { tag := "pre", children := [{ tag := "code", prose := .settle written }] }
  return some (parent, putBack after site.rest)

/-- A paragraph. In a tight list it is the text of the item, or follows what the item holds. -/
def paragraph : Rule := fun _ site => do
  let s := site.block
  if Text.allBlank s then return some (site.parent, site.rest)
  let parent :=
    if site.around = .tightList then
      match site.parent.last? with
      | some last => site.parent.setLast (last.withTail (last.tail.text ++ '\n' :: s))
      | none =>
        let before := site.parent.prose.text
        let s := dropBlanks s
        site.parent.withText (if before.isEmpty then s else before ++ '\n' :: s)
    else site.parent.add (.ofText "p" (dropBlanks s))
  return some (parent, site.rest)

end ContentFilters.Markdown.Block

import ContentFilters.Markdown.Block.Basic
import ContentFilters.Text.Word

/-!
# Lists

An item begins with a number and a full stop, or with a star, a plus sign or a hyphen. Indented
lines belong to the item before them. A list goes on after an empty line; its items then hold
paragraphs. Strict lists end where the kind of their items changes, and keep the number they start
with.
-/
namespace ContentFilters.Markdown.Block

open Text (Pattern)

def numberSign : Pattern := .seq (.oneOrMore (.one Text.isDecimal)) (.one (· = '.'))

def bulletSign : Pattern := .oneOf "*+-"

/-- An item behind some spaces. Its parts are the sign and the text. -/
def item (least most : Nat) (sign : Pattern) : Pattern :=
  .inOrder [.between least most (.one (· = ' ')), .part 1 sign, .oneOrMore (.one (· = ' ')),
    .part 2 (.many .inLine)]

structure ListKind where
  tag : String
  /-- The sign of its items. -/
  sign : Pattern
  strict : Bool

def listTags : List String := ["ul", "ol"]

def numbered (strict : Bool) : ListKind := ⟨"ol", numberSign, strict⟩

def bulleted (strict : Bool) : ListKind := ⟨"ul", bulletSign, strict⟩

namespace ListKind

/-- The sign of further items of a list of this kind. -/
def furtherSign (kind : ListKind) : Pattern :=
  if kind.strict then kind.sign else .alt numberSign bulletSign

/-- Whether a list of this kind goes on with one of a tag. -/
def continues (kind : ListKind) (tag : String) : Bool :=
  if kind.strict then tag == kind.tag else listTags.contains tag

/-- Adds a line to the items of a list: a new item, or a part of the last one. -/
def addLine (kind : ListKind) (items : List Text) (line : Text) : List Text :=
  let toLast : List Text :=
    items.dropLast ++ [((items.getLast?.map (· ++ ['\n'])).getD []) ++ line]
  match (item 0 (indentWidth - 1) kind.furtherSign).match? line with
  | some found => items ++ [found.part 2]
  | none =>
    if (item indentWidth (2 * indentWidth - 1) (.alt numberSign bulletSign)).startsWith line &&
        !((items.getLast?.map isIndented).getD false) then items ++ [line]
    else toLast

def items (kind : ListKind) (block : Text) : List Text :=
  (linesOf block).foldl kind.addLine []

/-- An empty list of this kind whose first item has a sign. -/
def start (kind : ListKind) (sign : Text) : Element :=
  let list : Element := { tag := kind.tag }
  let number := sign.takeWhile Text.isDecimal
  if kind.strict && kind.tag == "ol" && number != ['1'] then list.set "start" number else list

end ListKind

/-- An item with its text as a paragraph before its other children. -/
def textAsParagraph (li : Element) : Element :=
  if li.prose.text.isEmpty then li
  else { li.withText [] with children := .ofText "p" li.prose.text :: li.children }

/-- An item that is no longer tight: its text becomes a paragraph, and so does what follows its last
child. -/
def loosenItem (li : Element) : Element :=
  let li := textAsParagraph li
  match li.last? with
  | some last =>
    if last.tail.text.isEmpty then li
    else (li.setLast (last.withTail [])).add (.ofText "p" (dropBlanks last.tail.text))
  | none => li

def changeLastItem (change : Element → Element) (list : Element) : Element :=
  match list.last? with
  | some li => list.setLast (change li)
  | none => list

/-- Adds items to a list. An indented one belongs to the item before it. -/
def addItems (read : Read) : List Text → Element → Noting Element
  | [], list => return list
  | s :: more, list => do
    match list.last?.filter fun _ => isIndented s with
    | some li => addItems read more (list.setLast (← read .tightList li [s]))
    | none => addItems read more (list.add (← read .tightList { tag := "li" } [s]))

def list (kind : ListKind) : Rule := fun read site => do
  match (item 0 (indentWidth - 1) kind.sign).match? site.block with
  | none => return none
  | some found =>
    let items := kind.items site.block
    match site.parent.last?.filter fun last => kind.continues last.tag with
    | some before =>
      let before := changeLastItem loosenItem before
      let li ← read .looseList { tag := "li" } (items.take 1)
      let list ← addItems read (items.drop 1) (before.add li)
      return some (site.parent.setLast list, site.rest)
    | none =>
      if listTags.contains site.parent.tag then
        return some (← addItems read items site.parent, site.rest)
      else
        let list ← addItems read items (kind.start (found.part 1))
        return some (site.parent.add list, site.rest)

/-! ## Indented blocks of an item -/

structure Family where
  items : List String
  lists : List String
  /-- The tag of an item made for a block without one. -/
  item : String

/-- Lists with numbers or without. -/
def plainLists : Family := ⟨["li"], ["ul", "ol"], "li"⟩

/-- Lists of definitions, with all lists that may stand in them. -/
def definitionLists : Family := ⟨["dd", "li"], ["dl", "ol", "ul"], "dd"⟩

/-- Follows the last children of an element down through lists and their items, until the wanted
level is reached. The result is the level reached and the steps taken. `budget` bounds the steps. -/
def descend (family : Family) (wanted : Nat) : Nat → Nat → Element → Nat × Nat
  | 0, level, _ => (level, 0)
  | budget + 1, level, e =>
    if wanted ≤ level then (level, 0)
    else match e.last? with
      | none => (level, 0)
      | some child =>
        let isList := family.lists.contains child.tag
        if isList || family.items.contains child.tag then
          let (reached, steps) :=
            descend family wanted budget (if isList then level + 1 else level) child
          (reached, steps + 1)
        else (level, 0)

/-- Changes what is reached from an element by a number of steps to the last child. -/
def changeAt (change : Element → Noting Element) : Nat → Element → Noting Element
  | 0, e => change e
  | steps + 1, e =>
    match e.last? with
    | some child => return e.setLast (← changeAt change steps child)
    | none => return e

/-- Adds an indented block to the list item, or to the list, that it was found to belong to. -/
def addIndented (family : Family) (read : Read) (s : Text) (e : Element) : Noting Element := do
  if family.items.contains e.tag then read .indented e [s]
  else match e.last?.filter fun last => family.items.contains last.tag with
    | some li => return e.setLast (← read .indented (textAsParagraph li) (blocksOf s))
    | none => return e.add (← read .indented { tag := family.item } [s])

/-- An indented block that belongs to an item of a list. -/
def indentedBlock (family : Family) : Rule := fun read site => do
  let afterList := (site.parent.lastTag?.map family.lists.contains).getD false
  let inItem := family.items.contains site.parent.tag
  if !isIndented site.block || site.around = .indented || !(inItem || afterList) then return none
  let wanted := Text.leadingSpaces site.block / indentWidth
  let level := if site.around = .tightList then 1 else 0
  let (level, steps) := descend family wanted (4 * wanted + 4) level site.parent
  let s := outdent level site.block
  let parent ←
    if inItem then
      match site.parent.last?.filter fun last => family.lists.contains last.tag with
      | some list => pure (site.parent.setLast (← read .indented list [s]))
      | none => read .indented site.parent [s]
    else changeAt (addIndented family read s) steps site.parent
  return some (parent, site.rest)

end ContentFilters.Markdown.Block

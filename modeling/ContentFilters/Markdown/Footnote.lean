import ContentFilters.Markdown.Block.Document
import ContentFilters.Markdown.Inline.Line

/-!
# Footnotes

The footnotes stand in a list at the end of the document, or at the place that is marked for them.
Each ends with a link back to its mention, and with one more for each further mention. They are read
in the order of their declarations and shown in the order of their mentions; those that are not
mentioned come last.
-/
namespace ContentFilters.Markdown.Footnote

open Inline (mentionId noteId)

def placeMarker : Text := "///Footnotes Go Here///".toList

def backTitle (number : Nat) : Text :=
  "Jump back to footnote ".toList ++ Mark.digits number ++ " in the text".toList

def backClass : Text := "footnote-backref".toList

def listClass : Text := "footnote".toList

def backLink (number : Nat) (name : Text) : Element :=
  let e := (Element.ofText "a" Mark.backArrow.toText).set "href" ('#' :: mentionId 1 name)
  (e.set "class" backClass).set "title" (backTitle number)

/-- A footnote with the link back at its end: in its last paragraph, or in one of its own. An empty
footnote has none. -/
def withBackLink (link li : Element) : Element :=
  match li.last? with
  | none => li
  | some last =>
    if last.tag == "p" then
      li.setLast ((last.withText (last.prose.text ++ Mark.firmSpace.toText)).add link)
    else li.add { tag := "p", children := [link] }

/-- The footnotes as items of a list, with what has been read of them. Each one is read with all
that the ones before it left behind. -/
def readItems (read : Element → Text → Noting Element) :
    Nat → List (Text × Text) → Noting (List Element)
  | _, [] => return []
  | number, (name, s) :: others => do
    let body ← read { tag := "div" } s
    let li : Element := { tag := "li", children := body.children }
    let li := withBackLink (backLink number name) (li.set "id" (noteId name))
    return li :: (← readItems read (number + 1) others)

def readList (features : Features) (extent : Nat) : Noting (Option Element) := do
  let footnotes := (← get).footnotes
  if footnotes.isEmpty then return none
  let items ← readItems (Block.readText features extent) 1 footnotes
  let e : Element :=
    { tag := "div", children := [{ tag := "hr" }, { tag := "ol", children := items }] }
  return some (e.set "class" listClass)

/-! ## The place of the list -/

mutual

/-- Puts an element in the place that is marked in some trees, if one is: instead of the element
whose text has the marker, or after the one whose tail has it. -/
def putInPlace? (e : Element) : List Element → Option (List Element)
  | [] => none
  | ⟨tag, attributes, prose, children, tail⟩ :: rest =>
    let here : Element := ⟨tag, attributes, prose, children, tail⟩
    if Text.occursIn placeMarker prose.text then some (e :: rest)
    else if Text.occursIn placeMarker tail.text then some ({ here with tail := {} } :: e :: rest)
    else
      match putInPlace? e children with
      | some children => some ({ here with children := children } :: rest)
      | none => (putInPlace? e rest).map (here :: ·)

end

def addList (features : Features) (extent : Nat) (root : Element) : Noting Element := do
  match ← readList features extent with
  | none => return root
  | some e =>
    match putInPlace? e root.children with
    | some children => return { root with children := children }
    | none => return root.add e

/-! ## The order of the footnotes -/

def nameOf (li : Element) : Text :=
  let id := (li.get? "id").getD []
  ((Text.cutAt? ':' id).map (·.2)).getD id

def retitle (number : Nat) (li : Element) : Element :=
  match li.last? with
  | none => li
  | some p =>
    let change (e : Element) : Element :=
      if e.get? "class" == some backClass then e.set "title" (backTitle number) else e
    li.setLast { p with children := p.children.map change }

/-- An item with further links back, one for each mention after the first. -/
def addLinks (count : Nat) (li : Element) : Element :=
  match li.last? with
  | none => li
  | some p =>
    match p.children.find? fun e => e.get? "class" == some backClass with
    | none => li
    | some link =>
      let more := (List.range' 2 (count - 1)).map fun number =>
        link.set "href" ('#' :: mentionId number (nameOf li))
      li.setLast { p with children := p.children ++ more }

/-- The items of a list of footnotes in the order of their mentions, with all links back. -/
def orderItems (notes : Notes) (items : List Element) : List Element :=
  let place (li : Element) : Nat :=
    let found := notes.mentioned.idxOf (nameOf li)
    if found < notes.mentioned.length then found else notes.footnotes.length
  let ordered :=
    if notes.mentioned == notes.footnotes.map (·.1) then items
    else (items.mergeSort fun a b => decide (place a ≤ place b)).mapIdx
      fun i li => retitle (i + 1) li
  ordered.map fun li => addLinks (notes.mentionCount (nameOf li)) li

/-- A list of footnotes in the order of their mentions; other elements are left as they are. -/
def orderList (notes : Notes) (e : Element) : Element :=
  if e.tag == "div" && e.get? "class" == some listClass then
    { e with children := e.children.map fun child =>
        if child.tag == "ol" then { child with children := orderItems notes child.children }
        else child }
  else e

end ContentFilters.Markdown.Footnote

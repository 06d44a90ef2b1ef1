import ContentFilters.Html.Fragment.Tree

/-!
# Closing a formatting element

An end tag of a formatting element may come while blocks are open inside the element. The element is
then closed around the outermost of these blocks and a copy of it is put inside the block, so that
the text of the block stays formatted; formatting elements between the two are copied likewise. This
is repeated until no block is left, eight times at most.
-/
namespace ContentFilters.Html.Fragment

namespace Tree

/-- Closes the innermost element with a name, unless an element that is no mere formatting is met
before it. -/
def closeOther (t : Tree) (name : String) : Tree :=
  match t.opened.find? fun place => t.nameAt place == name || specialNames.contains (t.nameAt place)
  with
  | none => t
  | some place =>
    if t.nameAt place = name then
      let t := t.popImplied name
      { t with opened := (t.opened.dropWhile (· != place)).drop 1 }
    else t

/-- Puts `new` for `old` in a list. -/
def substitute {α : Type} [BEq α] (old new : α) (list : List α) : List α :=
  list.map fun x => if x == old then new else x

def insertAfter (anchor new : Nat) : List Nat → List Nat
  | [] => [new]
  | x :: rest => if x = anchor then x :: new :: rest else x :: insertAfter anchor new rest

/-- The state while the elements between a formatting element and a block are copied. -/
structure Carry where
  tree : Tree
  /-- The open elements, the outermost first. -/
  stack : List Nat
  /-- The element copied last, or the block. -/
  last : Nat
  /-- Where the copy of the formatting element goes in the list of formatting elements. -/
  bookmark : Nat

/-- Copies the elements between the formatting element and the block, at most `count` of them, from
the one at `index - 1` outwards. -/
def carryOut (formatted block : Nat) : Nat → Nat → Carry → Carry
  | 0, _, carry => carry
  | count + 1, index, carry =>
    match carry.stack[index - 1]? with
    | none => carry
    | some node =>
      if !carry.tree.formatting.contains (.element node) then
        carryOut formatted block count (index - 1) { carry with stack := carry.stack.erase node }
      else if node = formatted then carry
      else
        let bookmark :=
          if carry.last = block then carry.tree.formatting.idxOf (.element node) + 1
          else carry.bookmark
        let (t, twin) := carry.tree.copy node
        let t := { t with formatting := substitute (.element node) (.element twin) t.formatting }
        let t := (t.detach carry.last).attach twin none carry.last
        carryOut formatted block count (index - 1)
          { tree := t, stack := substitute node twin carry.stack, last := twin, bookmark }

/-- Closes a formatting element around a block. `before` are the open elements around the formatting
element, the outermost first. -/
def closeAround (t : Tree) (formatted block : Nat) (before : List Nat) : Tree :=
  let ancestor := before.getLast?.getD 0
  let stack := t.opened.reverse
  let carry := carryOut formatted block 3 (stack.idxOf block)
    { tree := t, stack := stack, last := block,
      bookmark := t.formatting.idxOf (.element formatted) }
  let t := carry.tree.detach carry.last
  let t :=
    if tablePartNames.contains (t.nameAt ancestor) then
      let (parent, sibling) := { t with opened := carry.stack.reverse }.fosterPlace
      t.attach parent sibling carry.last
    else t.attach ancestor none carry.last
  let (t, twin) := t.copy formatted
  let t := (t.moveChildren block twin).attach block none twin
  let entries := t.formatting.erase (.element formatted)
  let entries := entries.take carry.bookmark ++ .element twin :: entries.drop carry.bookmark
  let stack := insertAfter block twin (carry.stack.erase formatted)
  { t with formatting := entries, opened := stack.reverse }

/-- Closes the latest formatting element with a name; `rounds` bounds the repetitions. -/
def closeFormatting (t : Tree) (name : String) : Nat → Tree
  | 0 => t
  | rounds + 1 =>
    match t.formatting? name with
    | none => t.closeOther name
    | some formatted =>
      if !t.opened.contains formatted then t.dropFormatting formatted
      else if !t.inScope name then t.closeOther name
      else
        let stack := t.opened.reverse
        let before := stack.takeWhile (· != formatted)
        let inside := stack.drop before.length
        match inside.find? fun place => specialNames.contains (t.nameAt place) with
        | none =>
          { t.dropFormatting formatted with
            opened := (t.opened.dropWhile (· != formatted)).drop 1 }
        | some block => closeFormatting (t.closeAround formatted block before) name rounds

def closingRounds : Nat := 8

end Tree

end ContentFilters.Html.Fragment

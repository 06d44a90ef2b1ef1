import ContentFilters.Markdown.Inline.Basic
import ContentFilters.Text.Word

/-!
# Emphasis

One star or low line on both sides makes emphasis, two make it strong, and three make both; the two
kinds may also end one after the other. Low lines count only at the borders of words. What is
emphasised may hold further emphasis, but only of kinds that come later in the order in which they
are tried.
-/
namespace ContentFilters.Markdown.Inline

open Text (Pattern)

inductive Shape where
  /-- One element around the first part. -/
  | single (tag : String)
  /-- An outer element around an inner one with the first part, and then the second part. -/
  | innerFirst (outer inner : String)
  /-- An outer element around the first part, and then an inner one with the second part. -/
  | innerLast (outer inner : String)

/-- A kind of emphasis. The first part of its pattern has number 2, the second number 3. -/
structure Emphasis where
  pattern : Pattern
  shape : Shape

/-- Text with elements in it: the text before the first element, and the elements with their
tails. -/
structure Passage where
  lead : Text := []
  elements : List Element := []

def Passage.addText (passage : Passage) (s : Text) : Passage :=
  match passage.elements.getLast? with
  | some e =>
    { passage with
      elements := passage.elements.dropLast ++ [e.withTail (e.tail.text ++ s)] }
  | none => { passage with lead := passage.lead ++ s }

def Passage.add (passage : Passage) (e : Element) : Passage :=
  { passage with elements := passage.elements ++ [e] }

def Passage.append (passage other : Passage) : Passage :=
  let joined := passage.addText other.lead
  { joined with elements := joined.elements ++ other.elements }

def Passage.within (passage : Passage) (tag : String) : Element :=
  { tag := tag, prose := ⟨passage.lead, false⟩, children := passage.elements }

def signs (sign : Char) (count : Nat) : Pattern := .between count count (.one (· = sign))

/-- Any characters, as few as can be. -/
def shortest : Pattern := .oneOrFew .character

def starred : List Emphasis :=
  let one := signs '*' 1
  let two := signs '*' 2
  let three := signs '*' 3
  let last := .notAhead one
  [⟨.inOrder [three, .part 2 shortest, one, .part 3 (.few .character), two],
      .innerFirst "strong" "em"⟩,
    ⟨.inOrder [three, .part 2 shortest, two, .part 3 (.few .character), one],
      .innerFirst "em" "strong"⟩,
    ⟨.inOrder [two, last, .part 2 (.oneOrFew (.noneOf "*")), one, last, .part 3 shortest, three],
      .innerLast "strong" "em"⟩,
    ⟨.inOrder [two, .part 2 shortest, two], .single "strong"⟩,
    ⟨.inOrder [one, .part 2 (.oneOrMore (.noneOf "*")), one], .single "em"⟩]

def underscored : List Emphasis :=
  let one := signs '_' 1
  let two := signs '_' 2
  let three := signs '_' 3
  let last := .notAhead one
  let outside := .notBehind Text.isWordChar
  let ends := .notAhead (.one Text.isWordChar)
  let close := .notBehind (· = '_')
  [⟨.inOrder [three, .part 2 shortest, one, .part 3 (.few .character), two],
      .innerFirst "strong" "em"⟩,
    ⟨.inOrder [three, .part 2 shortest, two, .part 3 (.few .character), one],
      .innerFirst "em" "strong"⟩,
    ⟨.inOrder [outside, two, last, .part 2 shortest, outside, one, last, .part 3 shortest, three,
      ends], .innerLast "strong" "em"⟩,
    ⟨.inOrder [outside, two, last, .part 2 shortest, close, two, ends], .single "strong"⟩,
    ⟨.inOrder [outside, one, last, .part 2 shortest, close, one, ends], .single "em"⟩]

def Shape.make (shape : Shape) (read : Text → Passage) (found : Pattern.Found) : Element :=
  let first := read (found.part 2)
  let second := read (found.part 3)
  match shape with
  | .single tag => first.within tag
  | .innerFirst outer inner =>
    (({} : Passage).add (first.within inner) |>.append second).within outer
  | .innerLast outer inner => (first.add (second.within inner)).within outer

/-- Reads emphasis in a text that is emphasised itself, by the kinds that come after its own.
`passed` is the text before that is not yet part of the passage, the nearest character first.
`budget` bounds the characters. -/
def passage (sign : Char) (kinds : List Emphasis) :
    Nat → Nat → Option Char → Text → Text → Passage → Passage
  | 0, _, _, passed, s, done => done.addText (passed.reverse ++ s)
  | _, _, _, passed, [], done => done.addText passed.reverse
  | budget + 1, index, previous, passed, c :: rest, done =>
    let inner (i : Nat) (s : Text) : Passage := passage sign kinds budget i none [] s {}
    let tryKind (at_ : Pattern.Found × Option Char × Passage × Bool) (i : Nat) :
        Pattern.Found × Option Char × Passage × Bool :=
      let (place, previous, done, _) := at_
      if i ≤ index then at_
      else match kinds[i]? with
        | none => at_
        | some kind =>
          match kind.pattern.matchAfter? previous place.after with
          | none => at_
          | some found =>
            let done := (done.addText place.before).add (kind.shape.make (inner i) found)
            ({ found with before := [] }, found.whole.getLast?.or previous, done, true)
    if c = sign then
      let start : Pattern.Found := ⟨passed.reverse, [], c :: rest, []⟩
      let (place, before, more, matched) :=
        (List.range kinds.length).foldl tryKind (start, previous, done, false)
      if matched then passage sign kinds budget index before [] place.after more
      else passage sign kinds budget index (some c) (c :: passed) rest done
    else passage sign kinds budget index (some c) (c :: passed) rest done

/-- The first kind of emphasis that an occurrence is, with its index. -/
def firstKind? (kinds : List Emphasis) (previous : Option Char) (s : Text) :
    Option (Nat × Emphasis × Pattern.Found) :=
  kinds.zipIdx.findSome? fun (kind, i) =>
    (kind.pattern.matchAfter? previous s).map fun found => (i, kind, found)

def emphasis (sign : Char) (kinds : List Emphasis) : Rule where
  pattern := .one (· = sign)
  meaning := fun previous found =>
    let s := found.whole ++ found.after
    return match firstKind? kinds previous s with
    | none => .rejected
    | some (i, kind, occurrence) =>
      let read (t : Text) : Passage :=
        passage sign kinds (2 * t.length + 1) i none [] t {}
      .made (.element (kind.shape.make read occurrence)) occurrence.after

end ContentFilters.Markdown.Inline

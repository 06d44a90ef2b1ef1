import ContentFilters.Markdown.Notes
import ContentFilters.Text.Pattern
import ContentFilters.Text.Word

/-!
# Abbreviations

Wherever an abbreviation stands as a word in prose that is not settled, it becomes an element that
shows its meaning. Of several abbreviations that begin at one place the longest counts.
-/
namespace ContentFilters.Markdown.Abbreviation

open Text (Pattern)

def border : Pattern :=
  let word := Pattern.one Text.isWordChar
  .alt (.seq (.behind fun c => (c.map Text.isWordChar).getD false) (.notAhead word))
    (.seq (.notBehind Text.isWordChar) (.ahead true word))

def occurrence (known : List (Text × Text)) : Pattern :=
  let sorted := known.mergeSort fun a b => decide (b.1.length ≤ a.1.length)
  .inOrder [border, .firstOf (sorted.map fun (short, _) => .exactly (String.ofList short)), border]

/-- Prose with the abbreviations in it: the text before the first one, and the elements for all of
them with the text after each as its tail. -/
def inProse (known : List (Text × Text)) (prose : Prose) : Prose × List Element :=
  if prose.settled then (prose, [])
  else
    let occurrences := (occurrence known).findAll prose.text
    let rest := (occurrences.getLast?.map (·.after)).getD []
    let tails := (occurrences.drop 1).map (·.before) ++ [rest]
    match occurrences with
    | [] => (prose, [])
    | first :: _ =>
      let elements := List.zipWith (fun (found : Pattern.Found) (tail : Text) =>
        let e : Element := { tag := "abbr", prose := .settle found.whole }
        (e.set "title" ((known.lookup found.whole).getD [])).withTail tail) occurrences tails
      ({ text := first.before }, elements)

mutual

/-- An element with the abbreviations in it; its tail is left as it is. -/
def inElement (known : List (Text × Text)) (e : Element) : Element :=
  match e with
  | ⟨tag, attributes, prose, children, tail⟩ =>
    let (prose, elements) := inProse known prose
    ⟨tag, attributes, prose, elements ++ inElements known children, tail⟩

/-- Elements with the abbreviations in them and in their tails. -/
def inElements (known : List (Text × Text)) : List Element → List Element
  | [] => []
  | e :: rest =>
    let (tail, following) := inProse known e.tail
    { inElement known e with tail := tail } :: following ++ inElements known rest

end

def inDocument (notes : Notes) (root : Element) : Element :=
  if notes.abbreviations.isEmpty then root else inElement notes.abbreviations root

end ContentFilters.Markdown.Abbreviation

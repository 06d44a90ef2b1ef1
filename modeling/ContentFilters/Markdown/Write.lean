import ContentFilters.Markdown.Element
import ContentFilters.Markdown.Escape

/-!
# Writing elements

An element is written as a start tag, its content and an end tag; an empty element is one tag that
ends in a slash. The attributes are written in the order of their names.
-/
namespace ContentFilters.Markdown

def emptyTags : List String :=
  ["area", "base", "basefont", "br", "col", "frame", "hr", "img", "input", "isindex", "link",
    "meta", "param"]

def writtenAttributes (attributes : Attributes) : Text :=
  let sorted := attributes.mergeSort fun a b => Text.precedes a.1 b.1
  sorted.flatMap fun (name, value) => ' ' :: name ++ '=' :: '"' :: escapeValue value ++ ['"']

/-- The text of an element as it is written. The text of scripts and style sheets is left alone. -/
def writtenProse (tag : String) (s : Text) : Text :=
  if tag == "script" || tag == "style" then s else escapeText s

mutual

/-- An element as it is written, with its tail. -/
def write (e : Element) : Text :=
  match e with
  | ⟨tag, attributes, prose, children, tail⟩ =>
    let start := '<' :: tag.toList ++ writtenAttributes attributes
    let element :=
      if emptyTags.contains tag then start ++ " />".toList
      else start ++ '>' :: writtenProse tag prose.text ++ writeAll children ++
        '<' :: '/' :: tag.toList ++ ['>']
    element ++ escapeText tail.text

def writeAll : List Element → Text
  | [] => []
  | e :: rest => write e ++ writeAll rest

end

def writeContent (e : Element) : Text := writtenProse e.tag e.prose.text ++ writeAll e.children

end ContentFilters.Markdown

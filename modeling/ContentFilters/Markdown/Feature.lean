import ContentFilters.Text.Basic

/-!
# Features of the Markdown reader

What is read beyond the common constructs is chosen by name. A name can stand for one feature or for
a group of them; a name that is not known is refused.
-/
namespace ContentFilters.Markdown

structure Features where
  /-- Code between lines of backticks or tildes. -/
  fences : Bool := false
  footnotes : Bool := false
  /-- Attributes in braces after an element. -/
  attributeLists : Bool := false
  /-- Terms with their definitions. -/
  definitions : Bool := false
  tables : Bool := false
  abbreviations : Bool := false
  /-- Markdown inside HTML blocks that ask for it. -/
  nestedMarkup : Bool := false
  /-- Lists that keep their kind and the number they start with. -/
  strictLists : Bool := false
  /-- A line break wherever the source has one. -/
  lineBreaks : Bool := false
  deriving DecidableEq, Repr

namespace Features

def withUsual (features : Features) : Features :=
  { features with
    fences := true, footnotes := true, attributeLists := true, definitions := true, tables := true,
    abbreviations := true, nestedMarkup := true }

/-- The features with those that a name stands for, if it is known. A name may be written with the
name of the whole collection before it. -/
def withName? (features : Features) (name : String) : Option Features :=
  let full := "markdown.extensions.".toList
  let short := String.ofList ((Text.after? full name.toList).getD name.toList)
  match short with
  | "extra" => some features.withUsual
  | "fenced_code" => some { features with fences := true }
  | "footnotes" => some { features with footnotes := true }
  | "attr_list" => some { features with attributeLists := true }
  | "def_list" => some { features with definitions := true }
  | "tables" => some { features with tables := true }
  | "abbr" => some { features with abbreviations := true }
  | "md_in_html" => some { features with nestedMarkup := true }
  | "sane_lists" => some { features with strictLists := true }
  | "nl2br" => some { features with lineBreaks := true }
  | "admonition" | "codehilite" | "legacy_attrs" | "legacy_em" | "meta" | "smarty" | "toc"
  | "wikilinks" => some features
  | _ => none

/-- The features that some names stand for together, or the first name that is not known. -/
def ofNames (names : List String) : Except String Features :=
  names.foldlM
    (fun features name =>
      match features.withName? name with
      | some more => .ok more
      | none => .error name) {}

end Features

end ContentFilters.Markdown

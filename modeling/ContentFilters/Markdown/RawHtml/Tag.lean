import ContentFilters.Html.Reference
import ContentFilters.Text.LowerCase
import ContentFilters.Text.Pattern

/-!
# Tags in a Markdown source

HTML may stand in a Markdown source. A start tag is a name and attributes; neither may hold a
backtick outside of quotes, so that code is not taken for a tag. What looks like a start tag but is
none is text, all of it or only its angle bracket.
-/
namespace ContentFilters.Markdown.RawHtml

open Text (Pattern)

structure StartTag where
  source : Text
  name : Text
  attributes : List (Text × Option Text)
  /-- Whether the tag ends in a slash. -/
  closed : Bool

inductive Reading where
  | tag (tag : StartTag) (rest : Text)
  | text (shown rest : Text)

def endsName (c : Char) : Bool :=
  c = '\t' || c = '\n' || c = '\r' || c.toNat = 0xC || c = ' ' || c = '/' || c = '>' || c.toNat = 0

def blankOrSlash : Pattern := .one fun c => Text.isBlank c || c = '/'

/-- A blank, or a slash that does not end the tag. -/
def gap : Pattern := .alt .blank (.seq (.one (· = '/')) (.notAhead (.one (· = '>'))))

/-- The name of an attribute behind a quote, a blank or a slash. -/
def attributeName (backtick : Bool) : Pattern :=
  .inOrder [
    .behind fun c => (c.map fun c => c = '\'' || c = '"' || c = '/' || Text.isBlank c).getD false,
    .one fun c => !(Text.isBlank c || c = '/' || c = '>' || (!backtick && c = '`')),
    .many (.one fun c => !(Text.isBlank c || c = '/' || c = '=' || c = '>'))]

/-- The value of an attribute, in quotes or bare. -/
def attributeValue (backtick : Bool) : Pattern :=
  .firstOf [
    .inOrder [.one (· = '\''), .many (.noneOf "'"), .one (· = '\'')],
    .inOrder [.one (· = '"'), .many (.noneOf "\""), .one (· = '"')],
    .seq (.notAhead (.oneOf "'\""))
      (.many (.one fun c => !(Text.isBlank c || c = '>' || (!backtick && c = '`'))))]

def assignment : Pattern :=
  .inOrder [.many .blank, .oneOrMore (.one (· = '=')), .many .blank]

/-- A start tag up to its closing bracket. -/
def untilEnd : Pattern :=
  let value := .inOrder [assignment, attributeValue false,
    .many (.seq (.many .blank) (.one (· = ',')))]
  .inOrder [
    .one (· = '<'), .one Text.isLetter, .many (.one fun c => !(endsName c || c = '`')),
    .optional (.seq (.many blankOrSlash)
      (.many (.inOrder [attributeName false, .optional value, .many gap]))),
    .many .blank]

def tagName : Pattern :=
  .seq (.part 1 (.seq (.one Text.isLetter) (.many (.one (!endsName ·))))) (.many gap)

def attributePattern : Pattern :=
  .inOrder [.part 1 (attributeName true),
    .optional (.seq (.part 2 assignment) (.part 3 (attributeValue true))), .many gap]

/-- A value without the quotes around it and with its references decoded. -/
def cleanValue (s : Text) : Text :=
  let inner := match s with
    | '\'' :: rest => if rest.getLast? == some '\'' then rest.dropLast else s
    | '"' :: rest => if rest.getLast? == some '"' then rest.dropLast else s
    | _ => s
  Html.Reference.decode inner

/-- The attributes at the start of a text and the text after them. `stop` is how much of the text
lies behind the tag; attributes begin before it. `budget` bounds their number. -/
def attributesOf (stop : Nat) : Nat → Option Char → Text → List (Text × Option Text) × Text
  | 0, _, s => ([], s)
  | budget + 1, previous, s =>
    if s.length ≤ stop then ([], s)
    else match attributePattern.matchAfter? previous s with
      | none => ([], s)
      | some found =>
        let value := (found.part? 2).map fun _ => cleanValue (found.part 3)
        let (others, rest) :=
          attributesOf stop budget (found.whole.getLast?.or previous) found.after
        ((Text.lower (found.part 1), value) :: others, rest)

/-- Where a start tag ends: the text after it, if the tag is whole. A tag in which something that is
no part of a tag is met ends before it. -/
def afterTag? (s : Text) : Option Text :=
  match untilEnd.match? s with
  | none => none
  | some found =>
    match found.after with
    | '>' :: rest => some rest
    | '/' :: '>' :: rest => some rest
    | [] => none
    | c :: rest => if c = '/' || c = '=' || Text.isLetter c then none else some (c :: rest)

def readStartTag (s : Text) : Reading :=
  match afterTag? s with
  | none => .text (s.take 1) (s.drop 1)
  | some rest =>
    let source := s.take (s.length - rest.length)
    match tagName.match? (s.drop 1) with
    | none => .text (s.take 1) (s.drop 1)
    | some found =>
      let (attributes, after) :=
        attributesOf rest.length s.length found.whole.getLast? found.after
      let ending := Text.trim (after.take (after.length - rest.length))
      let name := Text.lower (found.part 1)
      if ending == ['>'] then .tag ⟨source, name, attributes, false⟩ rest
      else if ending == ['/', '>'] then .tag ⟨source, name, attributes, true⟩ rest
      else .text source rest

/-- The name of an end tag, if the text begins with one that is plain: nothing but a name and
blanks. -/
def plainEndTag : Pattern :=
  .inOrder [.exactly "</", .many .blank,
    .part 1 (.seq (.one Text.isLetter) (.many (.one fun c =>
      Text.isLetter c || Text.isDigit c || List.elem c "-.:_".toList))),
    .many .blank, .one (· = '>')]

end ContentFilters.Markdown.RawHtml

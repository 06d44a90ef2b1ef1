import ContentFilters.Html.Document.Token

/-!
# Start tags of a document

A start tag is a name and attributes. An attribute may stand alone or have a value behind an equals
sign, in quotes or bare. A quote that is not closed begins no value: the blank before it, if there
is one, is then the whole value. A tag in which something else is met before the closing bracket is
text, and a tag that the document ends in is incomplete.
-/
namespace ContentFilters.Html.Document

def value? (s : Text) : Option (Text × Text) :=
  match s with
  | '\'' :: rest => Text.cutAt? '\'' rest
  | '"' :: rest => Text.cutAt? '"' rest
  | _ =>
    let value := s.takeWhile fun c => c != '>' && !Text.isBlank c
    some (value, s.drop value.length)

/-- The value after the name of an attribute, equals sign and all, and the text after it. -/
def assigned? (s : Text) : Option (Text × Text) :=
  let s := s.dropWhile Text.isBlank
  let signs := s.takeWhile (· = '=')
  if signs.isEmpty then none
  else
    let after := s.drop signs.length
    let inner := after.dropWhile Text.isBlank
    match value? inner with
    | some found => some found
    | none =>
      if inner.length < after.length then some ([], inner)
      else if signs.length > 1 then value? ('=' :: after)
      else none

/-- Whether an attribute may begin behind a character. -/
def separates (c : Char) : Bool := c = '\'' || c = '"' || c = '/' || Text.isBlank c

structure ReadAttribute where
  name : Text
  value : Option Text
  rest : Text

/-- The attribute at the start of a text that follows a separating character. -/
def attribute? (s : Text) : Option ReadAttribute :=
  match s with
  | [] => none
  | c :: rest =>
    if c = '/' || c = '>' || Text.isBlank c then none
    else
      let tail := rest.takeWhile fun c => !(c = '/' || c = '=' || c = '>' || Text.isBlank c)
      let after := rest.drop tail.length
      match assigned? after with
      | some (value, after) => some ⟨c :: tail, some value, after⟩
      | none => some ⟨c :: tail, none, after⟩

/-- The last character that was passed between two texts, the second an end of the first. -/
def lastPassed? (s rest : Text) : Option Char := (s.take (s.length - rest.length)).getLast?

/-- Reads attributes and gives them with the text after them. `budget` bounds their number. -/
def attributesOf : Nat → Text → List (Text × Option Text) × Text
  | 0, s => ([], s)
  | budget + 1, s =>
    match attribute? s with
    | none => ([], s)
    | some a =>
      let rest := skipGap a.rest
      if ((lastPassed? s rest).map separates).getD false then
        let (others, after) := attributesOf budget rest
        ((a.name, a.value) :: others, after)
      else ([(a.name, a.value)], rest)

/-- The value of an attribute with its references decoded; a missing value is empty. -/
def attributeValue (value : Option Text) : Text := Reference.decode (value.getD [])

/-- Whether the document, which goes on with `s` after the attributes of a tag, ends inside it. -/
def endsInside (s : Text) : Bool :=
  match s with
  | [] => true
  | c :: rest => (c = '/' && rest.head? != some '>') || c = '=' || Text.isLetter c

/-- Reads a start tag; `s` is the text after its angle bracket and begins with a letter. -/
def readStartTag (s : Text) : Reading :=
  let name := s.takeWhile (!endsTagName ·)
  let gap := skipGap (s.drop name.length)
  let (attributes, rest) :=
    if ((lastPassed? s gap).map separates).getD false then attributesOf gap.length gap
    else ([], gap)
  let found := attributes.map fun (key, value) => (Text.lower key, attributeValue value)
  let name := Text.lower name
  match rest.dropWhile Text.isBlank with
  | '>' :: after => .found [.startTag name found false] after
  | '/' :: '>' :: after => .found [.startTag name found true] after
  | after =>
    if endsInside after then .incomplete
    else .found [.text ('<' :: s.take (s.length - after.length))] after

end ContentFilters.Html.Document

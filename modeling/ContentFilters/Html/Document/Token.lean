import ContentFilters.Html.Reference
import ContentFilters.Text.LowerCase

/-!
# Tokens of a document

A document is a sequence of tags, comments, declarations and text. References in text and in the
values of attributes are decoded when the tokens are read.
-/
namespace ContentFilters.Html.Document

inductive Token where
  | text (s : Text)
  /-- A start tag; one that ends in a slash is its own end tag. -/
  | startTag (name : Text) (attributes : List (Text × Text)) (closed : Bool)
  | endTag (name : Text)
  | comment (s : Text)
  | documentType (s : Text)
  | characterData (s : Text)
  | declaration (s : Text)
  | instruction (s : Text)
  deriving DecidableEq, Repr

inductive Reading where
  | found (tokens : List Token) (rest : Text)
  /-- The document ends before the construct does. -/
  | incomplete
  /-- No document can hold this. -/
  | rejected

def endsTagName (c : Char) : Bool :=
  c = '\t' || c = '\n' || c = '\r' || c.toNat = 0xC || c = ' ' || c = '/' || c = '>' || c.toNat = 0

/-- A text without the blanks at its start, and without the slashes among them that do not stand
before a closing bracket. -/
def skipGap : Text → Text
  | '/' :: '>' :: rest => '/' :: '>' :: rest
  | c :: rest => if c = '/' || Text.isBlank c then skipGap rest else c :: rest
  | [] => []

end ContentFilters.Html.Document

import ContentFilters.Text.LowerCase

/-!
# Tokens of a fragment

What a fragment of a document consists of before its tree is built: tags, comments and text. Blank
text is kept apart, since it is treated differently inside tables. Tags that are not wanted never
become tokens of their own: `Limits` says which tags are known and whether the others are dropped or
kept as the text that was written.
-/
namespace ContentFilters.Html.Fragment

abbrev Attributes := List (String × Text)

inductive Token where
  | text (s : Text)
  | blank (s : Text)
  | startTag (name : String) (attributes : Attributes)
  | endTag (name : String)
  /-- An element whose content is text whatever it looks like. -/
  | raw (name : String) (attributes : Attributes) (content : Text)
  | comment
  deriving DecidableEq, Repr

structure Limits where
  /-- The known tags, in lower case. -/
  tags : List String
  /-- Whether other tags are dropped instead of kept as text. -/
  strip : Bool

def Limits.knows (limits : Limits) (name : Text) : Bool :=
  limits.tags.contains (String.ofList (Text.lower name))

/-- The blank characters of a document. -/
def isBlank (c : Char) : Bool := c = '\t' || c = '\n' || c.toNat = 0xC || c = ' ' || c = '\r'

/-- Elements that begin a block, so that a dropped start tag leaves a line end behind. -/
def blockNames : List String :=
  ["address", "article", "aside", "blockquote", "details", "dialog", "dd", "div", "dl", "dt",
    "fieldset", "figcaption", "figure", "footer", "form", "h1", "h2", "h3", "h4", "h5", "h6",
    "header", "hgroup", "hr", "li", "main", "nav", "ol", "p", "pre", "section", "table", "ul"]

/-- Elements whose content is text whatever it looks like. -/
def rawNames : List String :=
  ["iframe", "noembed", "noframes", "noscript", "script", "style", "textarea", "title", "xmp"]

end ContentFilters.Html.Fragment

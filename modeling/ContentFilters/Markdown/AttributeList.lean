import ContentFilters.Markdown.Element
import ContentFilters.Text.Pattern

/-!
# Attribute lists

An attribute list is written in braces: `.name` adds a class, `#name` sets the identifier, and
`key=value` sets a value, with or without quotes; a single word is its own value. Reading stops at
what is none of these.
-/
namespace ContentFilters.Markdown.AttributeList

open Text (Pattern)

inductive Entry where
  /-- One more class. -/
  | addClass (name : Text)
  | value (key value : Text)
  deriving DecidableEq, Repr

/-- An entry for a key; a single dot means the classes. -/
def entry (key value : Text) : Entry := if key == ['.'] then .addClass value else .value key value

def wordEntry : Text → Entry
  | '.' :: name => .addClass name
  | '#' :: name => .value "id".toList name
  | word => .value word word

/-- An entry with an equals sign, its value between some quotes or none. -/
def pairEntry (quote : Char → Bool) (s : Text) : Entry :=
  match Text.cutAt? '=' s with
  | some (key, value) => entry key (Text.trimWhile quote value)
  | none => wordEntry s

/-- A character of a key or of a value without quotes. -/
def plain : Pattern := .noneOf " =\x7d"

/-- A key, an equals sign and a value between quotes. -/
def quoted (quote : Char) : Pattern :=
  .inOrder [.oneOrMore plain, .one (· = '='), .one (· = quote), .few .inLine, .one (· = quote)]

/-- The first entry of a text, if it is no blank, and the text after it. -/
def first? (s : Text) : Option (Option Entry × Text) :=
  let attempts : List (Pattern × (Text → Option Entry)) := [
    (quoted '"', fun t => some (pairEntry (· = '"') t)),
    (quoted '\'', fun t => some (pairEntry (· = '\'') t)),
    (.inOrder [.oneOrMore plain, .one (· = '='), .oneOrMore plain],
      fun t => some (pairEntry (fun _ => false) t)),
    (.oneOrMore plain, fun t => some (wordEntry t)),
    (.one (· = ' '), fun _ => none)]
  attempts.findSome? fun (pattern, read) =>
    (pattern.match? s).map fun found => (read found.whole, found.after)

/-- The entries at the start of a text and the text after them. `budget` bounds their number. -/
def entriesOf : Nat → Text → List Entry × Text
  | 0, s => ([], s)
  | budget + 1, s =>
    match first? s with
    | none => ([], s)
    | some (found, after) =>
      let (others, rest) := entriesOf budget after
      (found.toList ++ others, rest)

/-- The entries of a list and what is left of it from a closing brace on. The text between the last
entry and the brace is dropped, and so is all that is left if there is no brace. -/
def read (s : Text) : List Entry × Text :=
  let (entries, rest) := entriesOf s.length s
  (entries, rest.dropWhile (· != '\x7d'))

def isNameChar (c : Char) : Bool :=
  let n := c.toNat
  Text.isLetter c || Text.isDigit c || c = '_' || c = ':' || c = '-' || c = '.' || n == 0xB7 ||
    (0xC0 ≤ n && n ≤ 0x37D && n != 0xD7 && n != 0xF7) ||
    (0x37F ≤ n && n ≤ 0x1FFF) || n == 0x200C || n == 0x200D || n == 0x203F || n == 0x2040 ||
    (0x2070 ≤ n && n ≤ 0x218F) || (0x2C00 ≤ n && n ≤ 0x2FEF) || (0x3001 ≤ n && n ≤ 0xD7FF) ||
    (0xF900 ≤ n && n ≤ 0xFDCF) || (0xFDF0 ≤ n && n ≤ 0xFFFD)

/-- A name with each run of characters that may not stand in it replaced by a low line. -/
def cleanName : Text → Text := go false
where
  /-- Cleans a name; `replaced` says whether the character before was replaced. -/
  go (replaced : Bool) : Text → Text
  | [] => []
  | c :: rest =>
    if isNameChar c then c :: go false rest
    else if replaced then go true rest
    else '_' :: go true rest

def set (e : Element) : Entry → Element
  | .addClass name =>
    match e.get? "class" with
    | some (c :: before) => e.set "class" (c :: before ++ ' ' :: name)
    | _ => e.set "class" name
  | .value key value => { e with attributes := assign (cleanName key) value e.attributes }

def setAll (entries : List Entry) (e : Element) : Element := entries.foldl set e

/-- A list in braces; its first part is what stands between them. -/
def braced : Pattern :=
  .inOrder [.one (· = '\x7b'), .optional (.one (· = ':')), .spaces,
    .part 1 (.seq (.noneOf "\x7d\n ") (.many .inLine)), .spaces, .one (· = '\x7d')]

/-- A list at the end of a heading, a term or a cell. -/
def atEndOfHeading : Pattern :=
  .inOrder [.oneOrMore (.one (· = ' ')), braced, .spaces, .atLastLineEnd]

def inLastLine : Pattern :=
  .inOrder [.one (· = '\n'), .spaces, braced, .spaces, .atLastLineEnd]

end ContentFilters.Markdown.AttributeList

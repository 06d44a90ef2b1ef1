import ContentFilters.Text.Basic

/-!
# Escaping in written documents

Markup characters of text and of attribute values are replaced by references. An ampersand that
already begins a reference is left alone; in code it is replaced all the same.
-/
namespace ContentFilters.Markdown

/-- Whether a text, which follows an ampersand, goes on as a reference. -/
def continuesReference (s : Text) : Bool :=
  let closes (p : Char → Bool) (s : Text) : Bool :=
    !(s.takeWhile p).isEmpty && (s.dropWhile p).head? == some ';'
  match s with
  | '#' :: 'x' :: rest | '#' :: 'X' :: rest => closes Text.isHexDigit rest
  | '#' :: rest => closes Text.isDigit rest
  | _ => closes (fun c => Text.isLetter c || Text.isDigit c) s

/-- A text with its ampersands replaced, but for those that begin a reference. -/
def escapeAmpersands : Text → Text
  | [] => []
  | '&' :: rest =>
    (if continuesReference rest then ['&'] else "&amp;".toList) ++ escapeAmpersands rest
  | c :: rest => c :: escapeAmpersands rest

/-- The reference that replaces an angle bracket; other characters are kept. -/
def escapeBracket (c : Char) : Text :=
  if c = '<' then "&lt;".toList else if c = '>' then "&gt;".toList else [c]

/-- The reference that replaces a double quote; other characters are kept. -/
def escapeQuote (c : Char) : Text := if c = '"' then "&quot;".toList else [c]

def escapeText (s : Text) : Text := (escapeAmpersands s).flatMap escapeBracket

def escapeValue (s : Text) : Text := (escapeText s).flatMap escapeQuote

/-- Code as it is written: every ampersand is replaced. -/
def escapeCode (s : Text) : Text :=
  s.flatMap fun c => if c = '&' then "&amp;".toList else escapeBracket c

/-- Code between fences as it is written: the double quotes are replaced too. -/
def escapeFenced (s : Text) : Text := (escapeCode s).flatMap escapeQuote

end ContentFilters.Markdown

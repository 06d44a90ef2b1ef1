import ContentFilters.Text.Basic

/-!
# Lines of a text

A text is cut into lines at every line boundary of Unicode, a carriage return with the line feed
after it counting as one. A boundary at the very end starts no further line, so the empty text has
no line at all.
-/
namespace ContentFilters.Text

def isLineEnd (c : Char) : Bool :=
  let n := c.toNat
  (10 ≤ n && n ≤ 13) || (28 ≤ n && n ≤ 30) || n == 0x85 || n == 0x2028 || n == 0x2029

def consToFirst (c : Char) : List Text → List Text
  | [] => [[c]]
  | line :: more => (c :: line) :: more

/-- The lines of a text, without the characters that end them. -/
def lines : Text → List Text
  | [] => []
  | '\r' :: '\n' :: rest => [] :: lines rest
  | c :: rest => if isLineEnd c then [] :: lines rest else consToFirst c (lines rest)

end ContentFilters.Text

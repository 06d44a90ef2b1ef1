import ContentFilters.Text.Basic
import ContentFilters.Text.WordTable

/-!
# Word characters

Words are made of letters, numbers and the low line, in any script. A digit is a decimal digit of
any script.
-/
namespace ContentFilters.Text

def isWordChar (c : Char) : Bool :=
  if c.toNat < 0x80 then isLetter c || isDigit c || c = '_'
  else WordTable.wordRanges.any fun r => r.1 ≤ c.toNat && c.toNat ≤ r.2

def isDecimal (c : Char) : Bool :=
  if c.toNat < 0x80 then isDigit c
  else WordTable.zeros.any fun first => first ≤ c.toNat && c.toNat ≤ first + 9

end ContentFilters.Text

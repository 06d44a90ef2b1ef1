import ContentFilters.Text.LowerCase
import ContentFilters.Text.PrintTable

/-!
# Quoted forms

How a message shows a name: between single quotes, or between double quotes when the name holds a
single quote and no double one. The quote in use and the backslash are escaped by a backslash, tab,
line feed and carriage return by a letter, and every other character without a printed form by its
number in two, four or eight hexadecimal digits.
-/
namespace ContentFilters.Text

def hexDigit (n : Nat) : Char :=
  if n < 10 then Char.ofNat (48 + n) else Char.ofNat (87 + n)

/-- The last `width` hexadecimal digits of a number. -/
def hexDigits : Nat → Nat → Text
  | 0, _ => []
  | width + 1, n => hexDigits width (n / 16) ++ [hexDigit (n % 16)]

def isPrintable (c : Char) : Bool :=
  if c.toNat < 0x7F then 0x20 ≤ c.toNat else !inRanges PrintTable.hiddenRanges c.toNat

def quotedChar (quote c : Char) : Text :=
  if c = quote || c = '\\' then ['\\', c]
  else if c = '\t' then ['\\', 't']
  else if c = '\n' then ['\\', 'n']
  else if c = '\r' then ['\\', 'r']
  else if isPrintable c then [c]
  else if c.toNat < 0x100 then '\\' :: 'x' :: hexDigits 2 c.toNat
  else if c.toNat < 0x10000 then '\\' :: 'u' :: hexDigits 4 c.toNat
  else '\\' :: 'U' :: hexDigits 8 c.toNat

def quoteFor (s : Text) : Char :=
  if List.elem '\'' s && !List.elem '"' s then '"' else '\''

def quoted (s : Text) : Text :=
  let quote := quoteFor s
  quote :: s.flatMap (quotedChar quote) ++ [quote]

def quotedString (s : String) : String := String.ofList (quoted s.toList)

end ContentFilters.Text

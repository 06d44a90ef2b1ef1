import ContentFilters.Value.Basic
import ContentFilters.Text.Quoted

/-!
# Writing values

Writes a value in JavaScript object notation, the inverse of `ContentFilters.Value.Reader`: fields
in their order, floating-point numbers with a point or an exponent, and in strings only the quote,
the backslash and control characters escaped.
-/
namespace ContentFilters.Value

def writtenChar (c : Char) : Text :=
  if c = '"' then ['\\', '"']
  else if c = '\\' then ['\\', '\\']
  else if c.toNat < 0x20 then '\\' :: 'u' :: Text.hexDigits 4 c.toNat
  else [c]

def writeString (s : String) : Text := '"' :: s.toList.flatMap writtenChar ++ ['"']

def writeReal : Binary64 → Text
  | .nan => "NaN".toList
  | .infinite negative => (if negative then "-Infinity" else "Infinity").toList
  | x => x.render

mutual

def write : Value → Text
  | null => "null".toList
  | bool b => (if b then "true" else "false").toList
  | int n => (toString n).toList
  | real x => writeReal x
  | str s => writeString s
  | list items => '[' :: writeItems items ++ [']']
  | object fields => '\x7b' :: writeFields fields ++ ['\x7d']

def writeItems : List Value → Text
  | [] => []
  | [v] => write v
  | v :: rest => write v ++ ',' :: writeItems rest

def writeFields : List (String × Value) → Text
  | [] => []
  | [(key, v)] => writeString key ++ ':' :: write v
  | (key, v) :: rest => writeString key ++ ':' :: write v ++ ',' :: writeFields rest

end

end ContentFilters.Value

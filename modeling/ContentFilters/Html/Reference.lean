import ContentFilters.Html.NamedReferences
import ContentFilters.Text.Basic

/-!
# Character references

A reference stands for a character, or for two: `&name;` by name, `&#number;` by number. This module
looks names up and decodes the references of an attribute value. A name that counts without its
semicolon is also found at the start of a longer word, the longest such name first. Numbers from 128
to 159 mean the characters of the old Windows code page, and numbers that are no characters of a
document are dropped or replaced.
-/
namespace ContentFilters.Html

structure NamedReference where
  name : Text
  characters : Text
  /-- Whether the name counts without a semicolon after it. -/
  openEnded : Bool

namespace Reference

/-! ## Numbers -/

def digitValue (c : Char) : Nat :=
  let n := c.toNat
  if n ≤ 57 then n - 48 else if n ≤ 70 then n - 55 else n - 87

def number (base : Nat) (digits : Text) : Nat :=
  digits.foldl (fun n c => n * base + digitValue c) 0

/-- The characters of the old Windows code page from 128 to 159; zero where it has none. -/
def windowsCodes : List Nat :=
  [0x20AC, 0, 0x201A, 0x0192, 0x201E, 0x2026, 0x2020, 0x2021, 0x02C6, 0x2030, 0x0160, 0x2039,
    0x0152, 0, 0x017D, 0, 0, 0x2018, 0x2019, 0x201C, 0x201D, 0x2022, 0x2013, 0x2014, 0x02DC, 0x2122,
    0x0161, 0x203A, 0x0153, 0, 0x017E, 0x0178]

/-- The character that a number below 256 means in the old Windows code page, if it has one. -/
def windowsChar? (n : Nat) : Option Char :=
  if n < 0x80 || (0xA0 ≤ n && n < 0x100) then some (Char.ofNat n)
  else match windowsCodes[n - 0x80]? with
    | some code => if code = 0 then none else some (Char.ofNat code)
    | none => none

def replacementChar : Char := Char.ofNat 0xFFFD

def isNoChar (n : Nat) : Bool := (0xD800 ≤ n && n ≤ 0xDFFF) || n > 0x10FFFF

def isForbidden (n : Nat) : Bool :=
  (1 ≤ n && n ≤ 8) || n == 0xB || (0xE ≤ n && n ≤ 0x1F) || (0x7F ≤ n && n ≤ 0x9F) ||
    (0xFDD0 ≤ n && n ≤ 0xFDEF) || (n % 0x10000 ≥ 0xFFFE)

/-- What a reference by number stands for in an attribute value. -/
def ofNumber (n : Nat) : Text :=
  if n = 0 || isNoChar n then [replacementChar]
  else if 0x80 ≤ n && n ≤ 0x9F then [(windowsChar? n).getD (Char.ofNat n)]
  else if isForbidden n then []
  else [Char.ofNat n]

/-! ## Names -/

/-- The characters written as numbers with plus signs between them. -/
def readCharacters (s : Text) : Text :=
  (Text.splitOn '+' s).map fun digits => Char.ofNat (number 16 digits)

def readEntry (entry : Text) : NamedReference :=
  let name := entry.takeWhile fun c => c != '!' && c != ':'
  let rest := entry.drop name.length
  { name := name, characters := readCharacters (rest.drop 1), openEnded := rest.head? = some '!' }

def all : List NamedReference :=
  namedReferences.flatMap fun line => (Text.words line.toList).map readEntry

def allOpenEnded : List NamedReference := all.filter (·.openEnded)

/-- What a name stands for that is followed by a semicolon. -/
def named? (name : Text) : Option Text := (all.find? (·.name == name)).map (·.characters)

/-- What a name stands for that is not followed by a semicolon. -/
def namedOpenEnded? (name : Text) : Option Text :=
  (allOpenEnded.find? (·.name == name)).map (·.characters)

def startsName (s : Text) : Bool := all.any fun r => s.isPrefixOf r.name

/-- The longest of the given prefixes of a word that is a name without semicolon, together with the
rest of the word. Names have at least two characters. -/
def longestOpenEnded? (word : Text) : Nat → Option Text
  | 0 => none
  | length + 1 =>
    if length + 1 < 2 then none
    else match namedOpenEnded? (word.take (length + 1)) with
      | some characters => some (characters ++ word.drop (length + 1))
      | none => longestOpenEnded? word length

/-! ## Decoding -/

def isNameChar (c : Char) : Bool :=
  !(c = '\t' || c = '\n' || c.toNat = 0xC || c = ' ' || c = '<' || c = '&' || c = '#' || c = ';')

/-- A text without a semicolon at its start, and whether there was one. -/
def dropSemicolon : Text → Text × Bool
  | ';' :: rest => (rest, true)
  | s => (s, false)

/-- What the word after an ampersand stands for. -/
def decodeWord (word : Text) (closed : Bool) : Text :=
  let written := if closed then word ++ [';'] else word
  match if closed then named? word else namedOpenEnded? word with
  | some characters => characters
  | none => (longestOpenEnded? written (written.length - 1)).getD ('&' :: written)

/-- Decodes the reference after an ampersand; the second part is the text after the reference. -/
def decodeFirst? (s : Text) : Option (Text × Text) :=
  match s with
  | '#' :: 'x' :: rest | '#' :: 'X' :: rest => numeric 16 Text.isHexDigit rest
  | '#' :: rest => numeric 10 Text.isDigit rest
  | _ =>
    let word := (s.takeWhile isNameChar).take 32
    if word.isEmpty then none
    else
      let (rest, closed) := dropSemicolon (s.drop word.length)
      some (decodeWord word closed, rest)
where
  /-- Decodes a reference by number. -/
  numeric (base : Nat) (isDigitOfBase : Char → Bool) (s : Text) : Option (Text × Text) :=
    let digits := s.takeWhile isDigitOfBase
    if digits.isEmpty then none
    else some (ofNumber (number base digits), (dropSemicolon (s.drop digits.length)).1)

theorem length_dropSemicolon_le (s : Text) : (dropSemicolon s).1.length ≤ s.length := by
  unfold dropSemicolon
  split <;> simp

theorem length_of_numeric {base : Nat} {p : Char → Bool} {s decoded rest : Text}
    (h : decodeFirst?.numeric base p s = some (decoded, rest)) : rest.length ≤ s.length := by
  unfold decodeFirst?.numeric at h
  simp only at h
  split at h
  · simp at h
  · obtain ⟨-, rfl⟩ := Prod.mk.inj (Option.some.inj h)
    refine Nat.le_trans (length_dropSemicolon_le _) ?_
    simp only [List.length_drop]
    omega

theorem length_of_decodeFirst? {s decoded rest : Text}
    (h : decodeFirst? s = some (decoded, rest)) : rest.length ≤ s.length := by
  unfold decodeFirst? at h
  split at h
  · have := length_of_numeric h; simp only [List.length_cons]; omega
  · have := length_of_numeric h; simp only [List.length_cons]; omega
  · have := length_of_numeric h; simp only [List.length_cons]; omega
  · simp only at h
    split at h
    · simp at h
    · obtain ⟨-, rfl⟩ := Prod.mk.inj (Option.some.inj h)
      refine Nat.le_trans (length_dropSemicolon_le _) ?_
      simp only [List.length_drop]
      omega

def decode (s : Text) : Text :=
  match s with
  | [] => []
  | c :: rest =>
    if c = '&' then
      match _h : decodeFirst? rest with
      | some (decoded, after) => decoded ++ decode after
      | none => c :: decode rest
    else c :: decode rest
termination_by s.length
decreasing_by
  · have := length_of_decodeFirst? _h; simp only [List.length_cons]; omega
  · simp
  · simp

end Reference

end ContentFilters.Html

/-!
# Texts

A text is the list of its characters. This module fixes which characters are blank and holds the
searches that the rest of the library is written with: trimming, cutting a text at the first
occurrence of a pattern, replacing a pattern, splitting at a character and joining the pieces.

Each search is one recursion on the text. The lemmas beside them say what the pieces are: cutting
loses nothing, and the part before the cut holds no earlier occurrence.
-/
namespace ContentFilters

/-- A text is the list of its characters. -/
abbrev Text := List Char

namespace Text

/-- The blank characters of Unicode, the four information separators included. -/
def isBlank (c : Char) : Bool :=
  let n := c.toNat
  (9 ≤ n && n ≤ 13) || (28 ≤ n && n ≤ 32) || n == 0x85 || n == 0xA0 || n == 0x1680 ||
    (0x2000 ≤ n && n ≤ 0x200A) || n == 0x2028 || n == 0x2029 || n == 0x202F || n == 0x205F ||
    n == 0x3000

def isLetter (c : Char) : Bool :=
  (65 ≤ c.toNat && c.toNat ≤ 90) || (97 ≤ c.toNat && c.toNat ≤ 122)

def isDigit (c : Char) : Bool :=
  48 ≤ c.toNat && c.toNat ≤ 57

def isHexDigit (c : Char) : Bool :=
  isDigit c || (65 ≤ c.toNat && c.toNat ≤ 70) || (97 ≤ c.toNat && c.toNat ≤ 102)

/-- The lower-case form of an ASCII letter; every other character is kept. -/
def lowerAscii (c : Char) : Char :=
  if 65 ≤ c.toNat && c.toNat ≤ 90 then Char.ofNat (c.toNat + 32) else c

/-! ## Trimming -/

def dropEndWhile (p : Char → Bool) (s : Text) : Text :=
  (s.reverse.dropWhile p).reverse

/-- Drops the characters at both ends that satisfy `p`. -/
def trimWhile (p : Char → Bool) (s : Text) : Text :=
  dropEndWhile p (s.dropWhile p)

def trim (s : Text) : Text := trimWhile isBlank s

def allBlank (s : Text) : Bool := s.all isBlank

/-! ## Cutting at a pattern -/

/-- The text after a pattern at its start. -/
def after? : Text → Text → Option Text
  | [], s => some s
  | _ :: _, [] => none
  | p :: ps, c :: cs => if p = c then after? ps cs else none

/-- The text before the first occurrence of `pattern` and the text after it. -/
def cut? (pattern : Text) : Text → Option (Text × Text)
  | [] => if pattern.isEmpty then some ([], []) else none
  | c :: rest =>
    match after? pattern (c :: rest) with
    | some after => some ([], after)
    | none => (cut? pattern rest).map fun p => (c :: p.1, p.2)

/-- The text before the first occurrence of a character and the text after it. -/
def cutAt? (d : Char) : Text → Option (Text × Text)
  | [] => none
  | c :: rest => if c = d then some ([], rest) else (cutAt? d rest).map fun p => (c :: p.1, p.2)

/-- The text before the last occurrence of a character and the text after it. -/
def cutAtLast? (d : Char) (s : Text) : Option (Text × Text) :=
  (cutAt? d s.reverse).map fun p => (p.2.reverse, p.1.reverse)

def occursIn (pattern s : Text) : Bool := (cut? pattern s).isSome

theorem append_of_after? {pattern s rest : Text} (h : after? pattern s = some rest) :
    s = pattern ++ rest := by
  induction pattern generalizing s with
  | nil => simp only [after?, Option.some.injEq] at h; simp [h]
  | cons p ps ih =>
    cases s with
    | nil => simp [after?] at h
    | cons c cs =>
      simp only [after?] at h
      split at h
      · next hc => simp [hc, ih h]
      · simp at h

/-- A pattern is found before any text. -/
@[simp] theorem after?_append (pattern rest : Text) :
    after? pattern (pattern ++ rest) = some rest := by
  induction pattern with
  | nil => rfl
  | cons p ps ih => simp [after?, ih]

/-- Cutting loses nothing but the pattern. -/
theorem append_of_cut? {pattern s before after : Text}
    (h : cut? pattern s = some (before, after)) : s = before ++ pattern ++ after := by
  induction s generalizing before with
  | nil =>
    unfold cut? at h
    split at h
    · next hp => simp_all
    · simp at h
  | cons c rest ih =>
    unfold cut? at h
    split at h
    · next hp =>
      obtain ⟨rfl, rfl⟩ := Prod.mk.inj (Option.some.inj h)
      simpa using append_of_after? hp
    · obtain ⟨⟨b, a⟩, hb, he⟩ := Option.map_eq_some_iff.1 h
      obtain ⟨rfl, rfl⟩ := Prod.mk.inj he
      simp [ih hb]

theorem append_of_cutAt? {d : Char} {s before after : Text}
    (h : cutAt? d s = some (before, after)) : s = before ++ d :: after := by
  induction s generalizing before with
  | nil => simp [cutAt?] at h
  | cons c rest ih =>
    unfold cutAt? at h
    split at h
    · next hc => simp_all
    · obtain ⟨⟨b, a⟩, hb, he⟩ := Option.map_eq_some_iff.1 h
      obtain ⟨rfl, rfl⟩ := Prod.mk.inj he
      simp [ih hb]

theorem length_of_cutAt? {d : Char} {s before after : Text}
    (h : cutAt? d s = some (before, after)) : after.length < s.length := by
  rw [append_of_cutAt? h]
  simp only [List.length_append, List.length_cons]
  omega

theorem length_of_cut? {pattern s before after : Text} (hp : pattern ≠ [])
    (h : cut? pattern s = some (before, after)) : after.length < s.length := by
  have : 0 < pattern.length := List.length_pos_iff.2 hp
  rw [append_of_cut? h]
  simp only [List.length_append]
  omega

/-! ## Replacing, splitting and joining -/

/-- Replaces every occurrence of a pattern, from the left and without overlap. An empty pattern
stands between any two characters and at both ends. -/
def replaceAll (pattern substitute s : Text) : Text :=
  if pattern.isEmpty then
    substitute ++ s.flatMap fun c => c :: substitute
  else
    go s.length s
where
  /-- Replaces while `budget`, which the length of the text bounds, lasts. -/
  go : Nat → Text → Text
  | 0, s => s
  | budget + 1, s =>
    match cut? pattern s with
    | none => s
    | some (before, after) => before ++ substitute ++ go budget after

/-- The pieces between the occurrences of a character; a text without it is one piece. -/
def splitOn (d : Char) : Text → List Text
  | [] => [[]]
  | c :: rest =>
    if c = d then [] :: splitOn d rest
    else match splitOn d rest with
      | [] => [[c]]
      | piece :: pieces => (c :: piece) :: pieces

/-- The pieces between the occurrences of a pattern. An empty pattern splits nothing. -/
def splitOnPattern (pattern s : Text) : List Text :=
  if pattern.isEmpty then [s] else go s.length s
where
  /-- Splits while `budget`, which the length of the text bounds, lasts. -/
  go : Nat → Text → List Text
  | 0, s => [s]
  | budget + 1, s =>
    match cut? pattern s with
    | none => [s]
    | some (before, after) => before :: go budget after

/-- The maximal runs of characters that are not blank. -/
def words (s : Text) : List Text :=
  (go s).filter (!·.isEmpty)
where
  /-- The pieces between blank characters, empty ones included. -/
  go : Text → List Text
  | [] => [[]]
  | c :: rest =>
    if isBlank c then [] :: go rest
    else match go rest with
      | [] => [[c]]
      | piece :: pieces => (c :: piece) :: pieces

def join (separator : Text) (pieces : List Text) : Text :=
  separator.intercalate pieces

/-- Whether a text comes before another one, or is the same, in the order of the code points. -/
def precedes : Text → Text → Bool
  | [], _ => true
  | _ :: _, [] => false
  | a :: as, b :: bs => if a = b then precedes as bs else a.toNat < b.toNat

def leadingSpaces (s : Text) : Nat := (s.takeWhile (· = ' ')).length

end Text

end ContentFilters

import ContentFilters.Html.Fragment.Token

/-!
# Reading tokens

Reads the tokens of a fragment from left to right. A tag is read character by character by a machine
whose states are the places inside a tag (`Spot`); the machine never fails, but it notes the last
mistake it saw, since two mistakes change what is made of the tag: an attribute with a quote or an
angle bracket in its name is dropped again, and a tag that the fragment ends in is text if it broke
off in a name.

A tag that is not known becomes the text it was written as, or nothing, or a line end; see `Limits`.
-/
namespace ContentFilters.Html.Fragment

/-! ## Tags -/

inductive Mistake where
  /-- A quote or an angle bracket inside the name of an attribute. -/
  | strangeName
  /-- The fragment ends inside a name or an unquoted value. -/
  | brokenOff
  | other
  deriving DecidableEq, Repr

/-- A tag while it is read. Names and values are kept reversed, the last attribute first. -/
structure TagDraft where
  closing : Bool
  name : Text
  attributes : List (Text × Text) := []
  mistake : Option Mistake := none

inductive Spot where
  | name
  | beforeAttribute
  | attribute
  | afterAttribute
  | beforeValue
  | quoted (quote : Char)
  | unquoted
  | afterValue
  | slash
  deriving DecidableEq, Repr

/-- What the next character of a tag leads to. -/
inductive Progress where
  | inside (spot : Spot) (draft : TagDraft)
  | finished (draft : TagDraft)

/-- The character that stands for itself in a name or a value; zero is replaced. -/
def kept (c : Char) : Char := if c.toNat = 0 then Char.ofNat 0xFFFD else c

namespace TagDraft

def note (d : TagDraft) (m : Mistake) : TagDraft := { d with mistake := some m }

def startAttribute (d : TagDraft) (c : Char) : TagDraft :=
  { d with attributes := ([kept c], []) :: d.attributes }

def addToName (d : TagDraft) (c : Char) : TagDraft :=
  match d.attributes with
  | (name, value) :: rest => { d with attributes := (kept c :: name, value) :: rest }
  | [] => d

def addToValue (d : TagDraft) (c : Char) : TagDraft :=
  match d.attributes with
  | (name, value) :: rest => { d with attributes := (name, kept c :: value) :: rest }
  | [] => d

/-- Ends the name of the last attribute. A second attribute of one name is a mistake. -/
def endName (d : TagDraft) : TagDraft :=
  match d.attributes with
  | (name, value) :: rest =>
    let name := name.map Text.lowerAscii
    let d := { d with attributes := (name, value) :: rest }
    if rest.any (·.1 == name) then d.note .other else d
  | [] => d

def noteStrange (d : TagDraft) (c : Char) (m : Mistake) : TagDraft :=
  if c = '"' || c = '\'' || c = '<' then d.note m
  else if c.toNat = 0 then d.note .other
  else d

end TagDraft

def stepBeforeAttribute (d : TagDraft) (c : Char) : Progress :=
  if isBlank c then .inside .beforeAttribute d
  else if c = '>' then .finished d
  else if c = '/' then .inside .slash d
  else if c = '=' then .inside .attribute ((d.note .strangeName).startAttribute c)
  else .inside .attribute ((d.noteStrange c .strangeName).startAttribute c)

def step (spot : Spot) (d : TagDraft) (c : Char) : Progress :=
  match spot with
  | .name =>
    if isBlank c then .inside .beforeAttribute d
    else if c = '>' then .finished d
    else if c = '/' then .inside .slash d
    else .inside .name { d with name := kept c :: d.name }
  | .beforeAttribute => stepBeforeAttribute d c
  | .attribute =>
    if c = '=' then .inside .beforeValue d.endName
    else if c = '>' then .finished d.endName
    else if isBlank c then .inside .afterAttribute d.endName
    else if c = '/' then .inside .slash d.endName
    else .inside .attribute ((d.noteStrange c .strangeName).addToName c)
  | .afterAttribute =>
    if isBlank c then .inside .afterAttribute d
    else if c = '=' then .inside .beforeValue d
    else if c = '>' then .finished d
    else if c = '/' then .inside .slash d
    else .inside .attribute ((d.noteStrange c .other).startAttribute c)
  | .beforeValue =>
    if isBlank c then .inside .beforeValue d
    else if c = '"' || c = '\'' then .inside (.quoted c) d
    else if c = '>' then .finished (d.note .other)
    else if c = '=' || c = '<' || c = '`' || c.toNat = 0 then
      .inside .unquoted ((d.note .other).addToValue c)
    else .inside .unquoted (d.addToValue c)
  | .quoted quote =>
    if c = quote then .inside .afterValue d
    else if c.toNat = 0 then .inside (.quoted quote) ((d.note .other).addToValue c)
    else .inside (.quoted quote) (d.addToValue c)
  | .unquoted =>
    if isBlank c then .inside .beforeAttribute d
    else if c = '>' then .finished d
    else if c = '"' || c = '\'' || c = '=' || c = '<' || c = '`' || c.toNat = 0 then
      .inside .unquoted ((d.note .other).addToValue c)
    else .inside .unquoted (d.addToValue c)
  | .afterValue =>
    if isBlank c then .inside .beforeAttribute d
    else if c = '>' then .finished d
    else if c = '/' then .inside .slash d
    else stepBeforeAttribute (d.note .other) c
  | .slash =>
    if c = '>' then .finished d
    else stepBeforeAttribute (d.note .other) c

/-- What the end of the fragment inside a tag means. -/
def breakOff (spot : Spot) (d : TagDraft) : Mistake :=
  match spot with
  | .name | .unquoted => .brokenOff
  | .attribute => if (d.note .brokenOff).endName.mistake = some .other then .other else .brokenOff
  | _ => .other

/-- Reads a tag from a place inside it. The result is the tag with the text after it, or the mistake
of a tag that does not end. -/
def readTag (spot : Spot) (d : TagDraft) : Text → Except Mistake (TagDraft × Text)
  | [] => .error (breakOff spot d)
  | c :: rest =>
    match step spot d c with
    | .inside spot d => readTag spot d rest
    | .finished d => .ok (d, rest)

theorem length_of_readTag {spot : Spot} {d d' : TagDraft} {s rest : Text}
    (h : readTag spot d s = .ok (d', rest)) : rest.length < s.length := by
  induction s generalizing spot d with
  | nil => simp [readTag] at h
  | cons c s ih =>
    unfold readTag at h
    split at h
    · have := ih h
      simp only [List.length_cons]
      omega
    · simp only [Except.ok.injEq, Prod.mk.injEq] at h
      simp [h.2]

namespace TagDraft

def tagName (d : TagDraft) : Text := d.name.reverse.map Text.lowerAscii

/-- The attributes of the tag; of two with one name the first counts. -/
def tagAttributes (d : TagDraft) : Attributes :=
  let written := d.attributes.reverse.map fun (name, value) =>
    (String.ofList (name.reverse.map Text.lowerAscii), value.reverse)
  written.foldl (fun found a => if found.any (·.1 == a.1) then found else found ++ [a]) []

def isOrdinaryName (name : String) : Bool :=
  !name.toList.any fun c => c = '"' || c = '\'' || c = '<'

def keptAttributes (d : TagDraft) : Attributes :=
  if d.mistake = some .strangeName then d.tagAttributes.filter fun a => isOrdinaryName a.1
  else d.tagAttributes

end TagDraft

/-! ## Comments -/

/-- The places inside a comment, by the hyphens and the exclamation mark just passed. -/
inductive CommentSpot where
  | start | startHyphen | inside | hyphen | twoHyphens | bang
  deriving DecidableEq, Repr

def afterComment : CommentSpot → Text → Text
  | _, [] => []
  | .start, c :: rest =>
    if c = '-' then afterComment .startHyphen rest
    else if c = '>' then rest
    else afterComment .inside rest
  | .startHyphen, c :: rest =>
    if c = '-' then afterComment .twoHyphens rest
    else if c = '>' then rest
    else afterComment .inside rest
  | .inside, c :: rest =>
    if c = '-' then afterComment .hyphen rest else afterComment .inside rest
  | .hyphen, c :: rest =>
    if c = '-' then afterComment .twoHyphens rest else afterComment .inside rest
  | .twoHyphens, c :: rest =>
    if c = '>' then rest
    else if c = '!' then afterComment .bang rest
    else if c = '-' then afterComment .twoHyphens rest
    else afterComment .inside rest
  | .bang, c :: rest =>
    if c = '>' then rest
    else if c = '-' then afterComment .hyphen rest
    else afterComment .inside rest

theorem length_afterComment_le (spot : CommentSpot) (s : Text) :
    (afterComment spot s).length ≤ s.length := by
  induction s generalizing spot with
  | nil => simp [afterComment]
  | cons c s ih =>
    cases spot <;> simp only [afterComment, List.length_cons] <;>
      (repeat' split) <;> first
        | omega
        | exact Nat.le_succ_of_le (ih _)

def afterBracket (s : Text) : Text := (s.dropWhile (· != '>')).drop 1

theorem length_afterBracket_le (s : Text) : (afterBracket s).length ≤ s.length := by
  have := (List.dropWhile_sublist (fun c => c != '>') (l := s)).length_le
  simp only [afterBracket, List.length_drop]
  omega

/-! ## Raw elements -/

/-- Whether a text starts with the end tag of a raw element, after its angle bracket and slash. -/
def endsRaw (name : Text) (s : Text) : Bool :=
  (s.take name.length).map Text.lowerAscii == name &&
    match s[name.length]? with
    | some c => isBlank c || c = '/' || c = '>'
    | none => false

/-- The content of a raw element and the text from its end tag on. -/
def rawContent (name : Text) : Text → Text × Text
  | '<' :: '/' :: rest =>
    if endsRaw name rest then ([], '<' :: '/' :: rest)
    else
      let (content, after) := rawContent name ('/' :: rest)
      ('<' :: content, after)
  | c :: rest =>
    let (content, after) := rawContent name rest
    (kept c :: content, after)
  | [] => ([], [])
termination_by s => s.length

theorem length_rawContent_le (name s : Text) : (rawContent name s).2.length ≤ s.length := by
  fun_induction rawContent name s with
  | case1 => simp
  | case2 rest _ content after _ ih => simp_all only [List.length_cons]; omega
  | case3 c rest _ content after _ ih => simp_all only [List.length_cons]; omega
  | case4 => simp

/-! ## Fragments -/

structure Reading where
  tokens : List Token
  sawTag : Bool
  rest : Text

def source (s rest : Text) : Text := '<' :: s.take (s.length - rest.length)

def unknownTag (limits : Limits) (sawTag : Bool) (d : TagDraft) (written : Text) : Token :=
  if !limits.strip then .text written
  else if sawTag && !d.closing && blockNames.contains (String.ofList (Text.lower d.tagName)) then
    .text ['\n']
  else .text []

def knownTag (d : TagDraft) (rest : Text) : Reading :=
  let name := String.ofList d.tagName
  if d.closing then ⟨[.endTag name], true, rest⟩
  else if rawNames.contains name then
    let (content, after) := rawContent d.tagName rest
    ⟨[.raw name d.keptAttributes content], true, afterBracket after⟩
  else ⟨[.startTag name d.keptAttributes], true, rest⟩

/-- Reads a tag whose first letter is `c`. -/
def readNamedTag (limits : Limits) (sawTag closing : Bool) (s : Text) (c : Char) (rest : Text) :
    Reading :=
  match readTag .name { closing := closing, name := [c] } rest with
  | .ok (d, after) =>
    if limits.knows d.tagName then knownTag d after
    else ⟨[unknownTag limits sawTag d (source s after)], true, after⟩
  | .error .brokenOff => ⟨[.text ('<' :: s)], sawTag, []⟩
  | .error _ => ⟨[], sawTag, []⟩

/-- Reads what looks like an end tag but has no letter after the slash. -/
def readStrangeClosing (limits : Limits) (sawTag : Bool) (s inner : Text) : Reading :=
  let name := Text.trim (Text.lower ((inner.takeWhile (· != '>')).map kept))
  let after := afterBracket inner
  if limits.tags.contains (String.ofList name) then ⟨[.comment], sawTag, after⟩
  else ⟨[.text (source s after)], sawTag, after⟩

/-- Whether a declaration names a document type; such a declaration leaves no trace. -/
def isDocumentType (s : Text) : Bool := (s.take 7).map Text.lowerAscii == "doctype".toList

/-- Reads what follows an angle bracket; `s` is the text after it. -/
def readMarkup (limits : Limits) (sawTag : Bool) (s : Text) : Reading :=
  match s with
  | '!' :: '-' :: '-' :: rest => ⟨[.comment], sawTag, afterComment .start rest⟩
  | '!' :: rest =>
    ⟨if isDocumentType rest then [] else [.comment], sawTag, afterBracket rest⟩
  | '?' :: rest => ⟨[.comment], sawTag, afterBracket rest⟩
  | '/' :: '>' :: rest => ⟨[], sawTag, rest⟩
  | '/' :: c :: rest =>
    if Text.isLetter c then readNamedTag limits sawTag true s c rest
    else readStrangeClosing limits sawTag s (c :: rest)
  | ['/'] => ⟨[.text ['<', '/']], sawTag, []⟩
  | '>' :: rest => ⟨[.text ['<', '>']], sawTag, rest⟩
  | c :: rest =>
    if Text.isLetter c then readNamedTag limits sawTag false s c rest
    else ⟨[.text ['<']], sawTag, s⟩
  | [] => ⟨[.text ['<']], sawTag, []⟩

theorem length_readNamedTag_le (limits : Limits) (sawTag closing : Bool) (s : Text) (c : Char)
    (rest : Text) : (readNamedTag limits sawTag closing s c rest).rest.length ≤ rest.length := by
  unfold readNamedTag
  split
  · next d after h =>
    have := length_of_readTag h
    split
    · unfold knownTag
      simp only
      split
      · simp only; omega
      · split
        · have h1 := length_rawContent_le d.tagName after
          have h2 := length_afterBracket_le (rawContent d.tagName after).2
          simp only
          omega
        · simp only; omega
    · simp only; omega
  · simp
  · simp

theorem length_readMarkup_le (limits : Limits) (sawTag : Bool) (s : Text) :
    (readMarkup limits sawTag s).rest.length ≤ s.length := by
  fun_cases readMarkup limits sawTag s with
  | case1 rest =>
    have := length_afterComment_le .start rest
    simp only [List.length_cons]
    omega
  | case2 rest =>
    have := length_afterBracket_le rest
    simp only [List.length_cons]
    omega
  | case3 rest =>
    have := length_afterBracket_le rest
    simp only [List.length_cons]
    omega
  | case4 rest => simp only [List.length_cons]; omega
  | case5 c rest =>
    have := length_readNamedTag_le limits sawTag true ('/' :: c :: rest) c rest
    simp only [List.length_cons]
    omega
  | case6 c rest =>
    have := length_afterBracket_le (c :: rest)
    unfold readStrangeClosing
    simp only
    split <;> simp only [List.length_cons] at this ⊢ <;> omega
  | case7 => simp
  | case8 => simp
  | case9 c rest =>
    have := length_readNamedTag_le limits sawTag false (c :: rest) c rest
    simp only [List.length_cons]
    omega
  | case10 => simp
  | case11 => simp

def isPlain (c : Char) : Bool := c != '&' && c != '<' && c.toNat != 0

/-- Reads the tokens of a fragment; `sawTag` says whether a tag was read before. -/
def tokensFrom (limits : Limits) (sawTag : Bool) (s : Text) : List Token :=
  match s with
  | [] => []
  | c :: rest =>
    if c = '<' then
      let reading := readMarkup limits sawTag rest
      reading.tokens ++ tokensFrom limits reading.sawTag reading.rest
    else if c = '&' || c.toNat = 0 then .text [c] :: tokensFrom limits sawTag rest
    else if isBlank c then
      .blank (c :: rest.takeWhile isBlank) :: tokensFrom limits sawTag (rest.dropWhile isBlank)
    else
      .text (c :: rest.takeWhile isPlain) :: tokensFrom limits sawTag (rest.dropWhile isPlain)
termination_by s.length
decreasing_by
  · have := length_readMarkup_le limits sawTag rest
    simp only [List.length_cons]
    omega
  · simp
  · have := (List.dropWhile_sublist isBlank (l := rest)).length_le
    simp only [List.length_cons]
    omega
  · have := (List.dropWhile_sublist isPlain (l := rest)).length_le
    simp only [List.length_cons]
    omega

def normalizeLineEnds : Text → Text
  | '\r' :: '\n' :: rest => '\n' :: normalizeLineEnds rest
  | '\r' :: rest => '\n' :: normalizeLineEnds rest
  | c :: rest => c :: normalizeLineEnds rest
  | [] => []

def tokens (limits : Limits) (s : Text) : List Token :=
  tokensFrom limits false (normalizeLineEnds s)

end ContentFilters.Html.Fragment

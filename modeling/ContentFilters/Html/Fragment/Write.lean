import ContentFilters.Html.Fragment.Build
import ContentFilters.Html.Fragment.Link
import ContentFilters.Html.Policy

/-!
# Writing a fragment

The tree is written as a list of parts, in which a tag counts as several: its name, each piece of
each attribute, and its closing bracket. Only then are the values of attributes settled, since
whether an ampersand in a value is a reference is decided on the written part.

Tags that the policy does not list appear in the tree only if they were implied; they are dropped,
or written as text. Of the attributes those are kept that the policy allows and whose address it
allows.
-/
namespace ContentFilters.Html.Fragment

inductive Part where
  /-- Text that is still to be escaped. -/
  | text (s : Text)
  | blank (s : Text)
  | reference (name : Text)
  | startTag (name : String) (attributes : Attributes)
  | endTag (name : String)

/-! ## Text -/

def isInvisible (c : Char) : Bool :=
  let n := c.toNat
  n < 9 || n = 11 || n = 12 || (14 ≤ n && n < 32)

/-- A text with a question mark for each invisible character. -/
def makeVisible (s : Text) : Text := s.map fun c => if isInvisible c then '?' else c

def ampersandPart (part : Text) : List Part :=
  match referenceName? part with
  | some name =>
    [if name == "amp".toList then .text ['&'] else .reference name,
      .text (afterReference name part)]
  | none => [.text ('&' :: part)]

/-- The parts of a text without blanks at its ends. -/
def innerParts (s : Text) : List Part :=
  let (first, parts) := ampersandParts (makeVisible s)
  .text first :: parts.flatMap ampersandPart

/-- The parts of a text. The blanks at its ends are left alone. -/
def textParts (s : Text) : List Part :=
  let inner := s.dropWhile isBlank
  let middle := Text.dropEndWhile isBlank inner
  [.blank (s.takeWhile isBlank)] ++ (if middle.isEmpty then [] else innerParts middle) ++
    [.blank (inner.drop middle.length)]

/-! ## Attributes -/

def addressNames : List String :=
  ["href", "src", "cite", "action", "longdesc", "poster", "background", "datasrc", "dynsrc",
    "lowsrc", "ping"]

/-- The attribute that is kept for a written one, if any is. -/
def keptAttribute (policy : Policy) (tag : String) (given : String × Text) :
    Option (String × Text) :=
  let (name, value) := given
  if !policy.attributes.allows tag name then none
  else if addressNames.contains name && !allowsAddress policy.protocols value then none
  else if name = "style" then some (name, [])
  else some given

def shownTag (name : String) (attributes : Attributes) : Text :=
  '<' :: name.toList ++
    (attributes.flatMap fun (key, value) =>
      ' ' :: key.toList ++ '=' :: '"' :: value ++ ['"']) ++ ['>']

def startParts (policy : Policy) (name : String) (attributes : Attributes) : List Part :=
  if policy.tags.contains name then
    [.startTag name (attributes.filterMap (keptAttribute policy name))]
  else if policy.strip then []
  else [.text (shownTag name attributes)]

def endParts (policy : Policy) (name : String) : List Part :=
  if policy.tags.contains name then [.endTag name]
  else if policy.strip then []
  else [.text ('<' :: '/' :: name.toList ++ ['>'])]

/-- Elements that are written without an end tag. -/
def voidNames : List String :=
  ["base", "command", "event-source", "link", "meta", "hr", "br", "img", "embed", "param", "area",
    "col", "input", "source", "track"]

/-! ## The tree -/

mutual

/-- The parts of an element; `depth` bounds how deep elements nest. -/
def elementParts (policy : Policy) (t : Tree) : Nat → Nat → List Part
  | 0, _ => []
  | depth + 1, place =>
    let e := t.element place
    let start := startParts policy e.name e.attributes
    if voidNames.contains e.name then start
    else start ++ childrenParts policy t depth e.children ++ endParts policy e.name
termination_by depth => (depth, 0)

def childrenParts (policy : Policy) (t : Tree) (depth : Nat) : List Child → List Part
  | [] => []
  | .text s :: rest => textParts s ++ childrenParts policy t depth rest
  | .element place :: rest =>
    elementParts policy t depth place ++ childrenParts policy t depth rest
  | .comment :: rest => childrenParts policy t depth rest
termination_by children => (depth, children.length + 1)

end

def treeParts (policy : Policy) (t : Tree) : List Part :=
  childrenParts policy t t.elements.size (t.element 0).children

/-- Joins texts that follow each other and leaves out empty ones. -/
def joinTexts : List Part → List Part
  | [] => []
  | .text s :: rest =>
    if s.isEmpty then joinTexts rest
    else match joinTexts rest with
      | .text s' :: rest => .text (s ++ s') :: rest
      | rest => .text s :: rest
  | part :: rest => part :: joinTexts rest

/-! ## Pieces -/

def escapeText (s : Text) : Text :=
  s.flatMap fun c =>
    if c = '&' then "&amp;".toList
    else if c = '<' then "&lt;".toList
    else if c = '>' then "&gt;".toList
    else [c]

/-- Attributes that are written without a value, by element; the empty name stands for all. -/
def switchNames : List (String × List String) :=
  [("", ["irrelevant", "itemscope"]), ("style", ["scoped"]), ("img", ["ismap"]),
    ("audio", ["autoplay", "controls"]), ("video", ["autoplay", "controls"]),
    ("script", ["defer", "async"]), ("details", ["open"]),
    ("datagrid", ["multiple", "disabled"]),
    ("command", ["hidden", "disabled", "checked", "default"]),
    ("hr", ["noshade"]), ("menu", ["autosubmit"]), ("fieldset", ["disabled", "readonly"]),
    ("option", ["disabled", "readonly", "selected"]), ("optgroup", ["disabled", "readonly"]),
    ("button", ["disabled", "autofocus"]),
    ("input", ["disabled", "readonly", "required", "autofocus", "checked", "ismap"]),
    ("select", ["disabled", "readonly", "autofocus", "multiple"]),
    ("output", ["disabled", "readonly"]), ("iframe", ["seamless"])]

def isSwitch (tag name : String) : Bool :=
  switchNames.any fun (element, names) => (element == tag || element == "") && names.contains name

/-- The pieces of a quoted value. A value with a double quote and no single quote stands in single
quotes. -/
def valuePieces (value : Text) : List Text :=
  let escaped := value.flatMap fun c =>
    if c = '&' then "&amp;".toList else if c = '<' then "&lt;".toList else [c]
  if List.elem '"' escaped && !List.elem '\'' escaped then [['\''], escaped, ['\'']]
  else
    [['"'], escaped.flatMap fun c => if c = '"' then "&quot;".toList else [c], ['"']]

def attributePieces (tag : String) (given : String × Text) : List Text :=
  [[' '], given.1.toList] ++
    if isSwitch tag given.1 then [] else ['='] :: valuePieces given.2

/-- The pieces that parts are written as; inside a raw element text is not escaped. -/
def pieces (inRaw : Bool) : List Part → List Text
  | [] => []
  | .text s :: rest => (if inRaw then s else escapeText s) :: pieces inRaw rest
  | .blank s :: rest => (if s.isEmpty then [] else [s]) ++ pieces inRaw rest
  | .reference name :: rest => ('&' :: name ++ [';']) :: pieces inRaw rest
  | .startTag name attributes :: rest =>
    ('<' :: name.toList) :: attributes.flatMap (attributePieces name) ++ ['>'] ::
      pieces (inRaw || isRaw name) rest
  | .endTag name :: rest =>
    ('<' :: '/' :: name.toList ++ ['>']) :: pieces (inRaw && !isRaw name) rest
where
  /-- Whether the text of an element is written as it is. -/
  isRaw (name : String) : Bool :=
    rawNames.contains name && name != "textarea" && name != "title"

/-- A written value in which ampersands that are no references are escaped. -/
def settleValue (s : Text) : Text :=
  let (first, parts) := ampersandParts (Text.replaceAll "&amp;".toList ['&'] s)
  first ++ parts.flatMap fun part =>
    match (referenceName? part).filter fun name => (resolve? name).isSome with
    | some name => '&' :: name ++ ';' :: afterReference name part
    | none => "&amp;".toList ++ part

/-- Settles the values among the pieces. `inTag` holds from an angle bracket to the piece that
closes it, `awaiting` from an equals sign to the value. -/
def settle (inTag awaiting : Bool) : List Text → List Text
  | [] => []
  | piece :: rest =>
    if inTag then
      if piece = ['>'] then piece :: settle false awaiting rest
      else if awaiting && piece != ['"'] then settleValue piece :: settle inTag false rest
      else piece :: settle inTag (awaiting || piece == ['=']) rest
    else piece :: settle (piece.head? = some '<') awaiting rest

def write (policy : Policy) (t : Tree) : Text :=
  (settle false false (pieces false (joinTexts (treeParts policy t)))).flatten

end ContentFilters.Html.Fragment

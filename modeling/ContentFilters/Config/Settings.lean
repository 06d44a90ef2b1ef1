import ContentFilters.Config.Fault
import ContentFilters.Journal.Level
import ContentFilters.Text.LowerCase
import ContentFilters.Value.Reader

/-!
# Settings

The settings of a deployment and how they are read from the environment. A variable is named by the
stem `TEXTFILTER_` and the name of a field, in any mix of cases; of two variables that differ only
in case the later one counts. Lists and objects are written as values, so a variable that cannot be
read as one is an error of its own, found before anything is checked. All other faults are collected
in the order of the fields.
-/
namespace ContentFilters

abbrev Environment := List (String × String)

structure Settings where
  /-- The word before the colon in an inline tag. -/
  tagNamespace : String := "publify"
  /-- The longest attribute text with which an inline tag is still expanded. -/
  maxAttributesLength : Int := 2048
  /-- The markup filter used when no parameters are given. -/
  defaultMarkup : String := "markdown"
  markupExtensions : List String := ["extra", "sane_lists"]
  allowedTags : List String :=
    ["a", "abbr", "acronym", "b", "blockquote", "br", "cite", "code", "dd", "del", "div", "dl",
      "dt", "em", "h1", "h2", "h3", "h4", "h5", "h6", "hr", "i", "img", "ins", "kbd", "li", "ol",
      "p", "pre", "span", "strong", "sub", "sup", "table", "tbody", "td", "tfoot", "th", "thead",
      "tr", "ul"]
  allowedAttributes : List (String × List String) :=
    [("*", ["class", "id", "title"]), ("a", ["href", "title", "rel", "target"]),
      ("img", ["src", "alt", "title", "width", "height"]), ("abbr", ["title"]),
      ("acronym", ["title"]), ("td", ["colspan", "rowspan"]),
      ("th", ["colspan", "rowspan", "scope"])]
  allowedProtocols : List String := ["http", "https", "mailto"]
  /-- Whether tags that are not allowed are dropped instead of shown escaped. -/
  stripDisallowed : Bool := false
  logLevel : Journal.Level := .info
  deriving DecidableEq, Repr

inductive SettingsError where
  /-- A list or an object is not written as a value. -/
  | unreadable (field : String)
  | invalid (faults : List Fault)
  deriving DecidableEq, Repr

def SettingsError.message : SettingsError → String
  | unreadable field =>
    "error parsing value for field \"" ++ field ++ "\" from source \"EnvSettingsSource\""
  | invalid faults => Fault.report faults

namespace Settings

/-! ## Whole numbers -/

/-- The blanks around a number; the information separators are not among them. -/
def isNumberBlank (c : Char) : Bool := Text.isBlank c && !(28 ≤ c.toNat && c.toNat ≤ 31)

/-- Reads a plain numeral: digits without a superfluous zero, a minus sign in front allowed. -/
def plainInteger? (s : Text) : Option Int :=
  let (negative, digits) := match s with
    | '-' :: rest => (true, rest)
    | _ => (false, s)
  if digits.isEmpty || !digits.all Text.isDigit || (digits.length > 1 && digits.head? = some '0')
  then none
  else
    let n : Int := Value.Reader.digitsValue digits
    some (if negative then -n else n)

/-- Drops superfluous zeros, and underscores among them, from the start of a numeral. -/
def dropLeadingZeros? : Text → Option Text
  | '0' :: rest => go '0' rest
  | c :: rest => if Text.isDigit c || c = '-' then some (c :: rest) else none
  | [] => none
where
  /-- Continues after at least one zero; `last` is the character just passed. -/
  go (last : Char) : Text → Option Text
  | [] => some [last]
  | c :: rest =>
    if c = '0' || c = '_' then go c rest
    else if Text.isDigit c then some (c :: rest)
    else if c = '.' then some (last :: c :: rest)
    else none

def dropZeroFraction (s : Text) : Text :=
  match Text.cutAt? '.' s with
  | some (whole, fraction) => if fraction.all (· = '0') then whole else s
  | none => s

def dropUnderscores (s : Text) : Text :=
  if s.head? = some '_' || s.getLast? = some '_' || Text.occursIn ['_', '_'] s then s
  else s.filter (· != '_')

/-- Reads a whole number leniently: blanks around it, a plus sign, superfluous zeros, underscores
between digits and a zero fraction are allowed. -/
def integer? (s : Text) : Option Int :=
  let s := Text.trimWhile isNumberBlank s
  plainInteger? s <|> do
    let s ← match s with
      | '+' :: '-' :: _ => none
      | '+' :: rest => some rest
      | _ => some s
    plainInteger? (dropUnderscores (dropZeroFraction (← dropLeadingZeros? s)))

/-! ## Reading the environment -/

/-- The stem of the name of every variable, in lower case. -/
def stem : String := "textfilter_"

/-- The variable of a field: the last one whose name in lower case is the stem and the field. -/
def valueOf? (env : Environment) (field : String) : Option String :=
  (env.reverse.find? fun v => Text.lowerString v.1 == stem ++ field).map (·.2)

/-- The value written in the variable of a list or an object. A written null counts as absent. -/
def structured (env : Environment) (field : String) : Except SettingsError (Option Value) :=
  match valueOf? env field with
  | none => .ok none
  | some s =>
    match Value.Reader.read? s.toList with
    | none => .error (.unreadable field)
    | some .null => .ok none
    | some v => .ok (some v)

/-- Checks a value if there is one, and takes the default otherwise. -/
def orDefault {α β : Type} (check : α → Checked β) (fallback : β) : Option α → Checked β
  | none => .ok fallback
  | some v => check v

def checkInteger (path : List String) (s : String) : Checked Int :=
  if s.length > Value.Reader.maxDigits then Checked.fault path .oversizedInteger
  else match integer? s.toList with
    | some n => .ok n
    | none => Checked.fault path .unreadableInteger

def checkLevel (path : List String) (s : String) : Checked Journal.Level :=
  match Journal.Level.ofName? s with
  | some level => .ok level
  | none => Checked.fault path .unknownChoice

def read (env : Environment) : Except SettingsError Settings := do
  let base : Settings := {}
  let extensions ← structured env "markdown_extensions"
  let tags ← structured env "sanitizer_allowed_tags"
  let attributes ← structured env "sanitizer_allowed_attributes"
  let protocols ← structured env "sanitizer_allowed_protocols"
  let text (field : String) (fallback : String) : String := (valueOf? env field).getD fallback
  let strings (field : String) := Checked.stringList [field]
  let checked :=
    (orDefault (checkInteger ["max_tag_attributes_length"]) base.maxAttributesLength
        (valueOf? env "max_tag_attributes_length")).both <|
    (orDefault (strings "markdown_extensions") base.markupExtensions extensions).both <|
    (orDefault (strings "sanitizer_allowed_tags") base.allowedTags tags).both <|
    (orDefault (Checked.objectOf Checked.stringList ["sanitizer_allowed_attributes"])
        base.allowedAttributes attributes).both <|
    (orDefault (strings "sanitizer_allowed_protocols") base.allowedProtocols protocols).both <|
    (orDefault (Checked.truthWord ["sanitizer_strip"]) base.stripDisallowed
        (valueOf? env "sanitizer_strip")).both <|
    orDefault (checkLevel ["log_level"]) base.logLevel (valueOf? env "log_level")
  match checked with
  | .error faults => .error (.invalid faults)
  | .ok (limit, extensions, tags, attributes, protocols, strip, level) =>
    .ok {
      tagNamespace := text "macro_namespace" base.tagNamespace
      maxAttributesLength := limit
      defaultMarkup := text "default_markup" base.defaultMarkup
      markupExtensions := extensions
      allowedTags := tags
      allowedAttributes := attributes
      allowedProtocols := protocols
      stripDisallowed := strip
      logLevel := level }

end Settings

end ContentFilters

import ContentFilters.Html.Reference
import ContentFilters.Link.Address
import ContentFilters.Text.LowerCase

/-!
# References and addresses in a fragment

References are left as they are written when a fragment is cleaned, so it has to be known where one
starts and ends. A reference counts only with its semicolon. Its name need not be complete: the
start of a name is enough to leave the text alone.

An address is judged by what a browser would make of it: references are decoded, blanks and control
characters are dropped, and letters are taken in lower case. The address that passes is kept as it
was written.
-/
namespace ContentFilters.Html.Fragment

/-! ## References -/

def endsReference (c : Char) : Bool :=
  c = '<' || c = '&' || c = '=' || c = ';' || (9 ≤ c.toNat && c.toNat ≤ 13) || c = ' '

/-- The digits at the start of a text and what follows them. A character that is neither a digit nor
ends the name is passed over. -/
def digitRun (isDigitOfBase : Char → Bool) (s : Text) : Text × Text :=
  let digits := s.takeWhile fun c => isDigitOfBase c
  match s.drop digits.length with
  | c :: rest => if endsReference c then (digits, c :: rest) else (digits, rest)
  | [] => (digits, [])

/-- The name of the reference whose ampersand stands before a text. -/
def referenceName? (s : Text) : Option Text :=
  match s with
  | '#' :: 'x' :: rest => numeric ['#', 'x'] Text.isHexDigit rest
  | '#' :: 'X' :: rest => numeric ['#', 'X'] Text.isHexDigit rest
  | '#' :: rest => numeric ['#'] Text.isDigit rest
  | _ =>
    let name := s.takeWhile (!endsReference ·)
    if !name.isEmpty && Reference.startsName name && (s.drop name.length).head? = some ';' then
      some name
    else none
where
  /-- The name of a reference by number. -/
  numeric (mark : Text) (isDigitOfBase : Char → Bool) (s : Text) : Option Text :=
    let (digits, rest) := digitRun isDigitOfBase s
    if rest.head? = some ';' then some (mark ++ digits) else none

/-- What a reference with this name stands for, if that is beyond doubt. -/
def resolve? (name : Text) : Option Text :=
  match name with
  | '#' :: 'x' :: digits | '#' :: 'X' :: digits => numeric 16 digits
  | '#' :: digits => numeric 10 digits
  | _ => Reference.namedOpenEnded? name
where
  /-- The character with a number. A number that is no character stands for a sign of its own. -/
  numeric (base : Nat) (digits : Text) : Option Text :=
    let n := Reference.number base digits
    if digits.isEmpty || n = 0 || n > 0x10FFFF then none
    else some [if Reference.isNoChar n then Char.ofNat 0xE000 else Char.ofNat n]

/-- The text up to the first ampersand, and the texts after each ampersand. -/
def ampersandParts (s : Text) : Text × List Text :=
  match Text.splitOn '&' s with
  | first :: rest => (first, rest)
  | [] => ([], [])

/-- The text after a reference with this name: the ampersand and the semicolon are not counted. -/
def afterReference (name part : Text) : Text := part.drop (name.length + 1)

/-- Decodes the references of an address that are beyond doubt. -/
def decodeAddress (s : Text) : Text :=
  let (first, parts) := ampersandParts s
  first ++ parts.flatMap fun part =>
    match (do let name ← referenceName? part; let c ← resolve? name; pure (name, c)) with
    | some (name, characters) => characters ++ afterReference name part
    | none => '&' :: part

/-! ## Addresses -/

def isIgnored (c : Char) : Bool :=
  c = '`' || c.toNat ≤ 0x20 || (0x7F ≤ c.toNat && c.toNat ≤ 0xA0) || Text.isBlank c ||
    c = Reference.replacementChar

/-- The form of an address by which it is judged. -/
def judgedForm (s : Text) : Text := Text.lower ((decodeAddress s).filter (!isIgnored ·))

/-- The scheme of an address in its judged form, and the rest. A host with a number after a colon
has no scheme. -/
def judgedScheme (s : Text) : Text × Text :=
  match Text.cutAt? ':' s with
  | some (scheme, rest) =>
    if !scheme.isEmpty && scheme.all Address.isSchemeChar &&
        (scheme == "http".toList || rest.isEmpty || !rest.all Text.isDigit) then
      (scheme, rest)
    else ([], s)
  | none => ([], s)

/-- Whether the part of an address that names the host can be read. -/
def isReadable (rest : Text) : Bool :=
  let named := Address.authority rest
  List.elem '[' named == List.elem ']' named &&
    !named.any fun c => Address.disguisedSigns.contains c.toNat

def allowsAddress (protocols : List String) (s : Text) : Bool :=
  let form := judgedForm s
  let (scheme, rest) := judgedScheme form
  let allowed (name : Text) : Bool := protocols.contains (String.ofList name)
  if !isReadable rest then false
  else if !scheme.isEmpty then allowed scheme
  else
    form.head? = some '#' || (List.elem ':' form && allowed (form.takeWhile (· != ':'))) ||
      protocols.contains "http" || protocols.contains "https"

end ContentFilters.Html.Fragment

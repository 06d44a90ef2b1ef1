import ContentFilters.Text.Quoted

/-!
# Web addresses

Splits an address into what the filters ask for: its scheme and its host. Control characters and
blanks before the address are dropped, tabs and line ends anywhere in it are removed. The part after
two slashes up to the next slash, question mark or number sign names the host; brackets in it must
hold an address of the sixth version of the internet protocol, and no character in it may stand for
one of the signs that divide an address.
-/
namespace ContentFilters

inductive AddressError where
  /-- A bracket around the host has no partner. -/
  | unpairedBracket
  /-- The text in brackets is no numeric address. -/
  | notNumeric (host : Text)
  /-- A numeric address of the fourth version stands in brackets. -/
  | bracketedVersion4
  /-- A text in brackets that starts like an address of a future version is none. -/
  | badFutureVersion
  /-- A character of the host stands for a sign that divides addresses. -/
  | disguisedSign (authority : Text)
  deriving DecidableEq, Repr

def AddressError.message : AddressError → String
  | unpairedBracket => "Invalid IPv6 URL"
  | notNumeric host =>
    String.ofList (Text.quoted host) ++ " does not appear to be an IPv4 or IPv6 address"
  | bracketedVersion4 => "An IPv4 address cannot be in brackets"
  | badFutureVersion => "IPvFuture address is invalid"
  | disguisedSign authority =>
    "netloc '" ++ String.ofList authority ++
      "' contains invalid characters under NFKC normalization"

structure Address where
  /-- The scheme in lower case; empty if the address has none. -/
  scheme : Text
  /-- The host in lower case, if the address names one. -/
  host : Option Text
  deriving DecidableEq, Repr

namespace Address

/-! ## Numeric hosts -/

/-- Whether a text is one of the four numbers of an address of version 4. -/
def isOctet (s : Text) : Bool :=
  !s.isEmpty && s.all Text.isDigit && s.length ≤ 3 && (s.length = 1 || s.head? != some '0') &&
    s.foldl (fun n d => n * 10 + (d.toNat - 48)) 0 ≤ 255

def isVersion4 (s : Text) : Bool :=
  let octets := Text.splitOn '.' s
  octets.length = 4 && octets.all isOctet

/-- Whether a text is one of the eight numbers of an address of version 6. -/
def isHextet (s : Text) : Bool := !s.isEmpty && s.all Text.isHexDigit && s.length ≤ 4

/-- The places, other than the first and the last, of the empty parts. -/
def innerGaps (parts : List Text) : List Nat :=
  (List.range parts.length).filter fun i =>
    0 < i && i + 1 < parts.length && (parts[i]?.getD []).isEmpty

/-- Whether the parts between colons form an address of version 6. One gap of two colons may stand
for zeros, also at either end. -/
def areHextets (parts : List Text) : Bool :=
  if parts.length > 9 then false
  else match innerGaps parts with
    | [] => parts.length = 8 && parts.all isHextet
    | [gap] =>
      let before := parts.take gap
      let after := parts.drop (gap + 1)
      let before := if before = [[]] then [] else before
      let after := if after = [[]] then [] else after
      before.all isHextet && after.all isHextet && before.length + after.length < 8
    | _ => false

/-- Whether a text is an address of version 6, with a zone after a percent sign if it likes. -/
def isVersion6 (s : Text) : Bool :=
  if List.elem '/' s then false
  else
    let (number, zoneOk) := match Text.cutAt? '%' s with
      | none => (s, true)
      | some (number, zone) => (number, !zone.isEmpty && !List.elem '%' zone)
    let parts := Text.splitOn ':' number
    if parts.length < 3 then false
    else
      let last := parts.getLast?.getD []
      if List.elem '.' last then
        zoneOk && isVersion4 last && areHextets (parts.dropLast ++ [['0'], ['0']])
      else zoneOk && areHextets parts

/-- Whether a text that starts with `v` is an address of a future version. -/
def isFutureVersion (s : Text) : Bool :=
  match Text.cutAt? '.' (s.drop 1) with
  | some (version, address) =>
    !version.isEmpty && version.all Text.isHexDigit && !address.isEmpty
  | none => false

def checkBracketed (host : Text) : Except AddressError Unit :=
  if host.head? = some 'v' then
    if isFutureVersion host then .ok () else .error .badFutureVersion
  else if !List.elem '/' host && isVersion4 host then .error .bracketedVersion4
  else if isVersion6 host then .ok ()
  else .error (.notNumeric host)

/-! ## Splitting -/

/-- Characters outside ASCII that stand for a text with a dividing sign in it. -/
def disguisedSigns : List Nat :=
  [0x2047, 0x2048, 0x2049, 0x2100, 0x2101, 0x2105, 0x2106, 0x2A74, 0xFE13, 0xFE16, 0xFE55, 0xFE56,
    0xFE5F, 0xFE6B, 0xFF03, 0xFF0F, 0xFF1A, 0xFF1F, 0xFF20]

def isSchemeChar (c : Char) : Bool :=
  Text.isLetter c || Text.isDigit c || c = '+' || c = '-' || c = '.'

def cleaned (s : Text) : Text :=
  (s.dropWhile fun c => c.toNat ≤ 0x20).filter fun c => c != '\t' && c != '\r' && c != '\n'

/-- The scheme in lower case and the text after its colon. -/
def splitScheme (s : Text) : Text × Text :=
  match Text.cutAt? ':' s with
  | some (scheme, rest) =>
    if (scheme.head?.map Text.isLetter).getD false && scheme.all isSchemeChar then
      (scheme.map Text.lowerAscii, rest)
    else ([], s)
  | none => ([], s)

/-- The part that names the host, with the user, brackets and number in it. -/
def authority : Text → Text
  | '/' :: '/' :: rest => rest.takeWhile fun c => c != '/' && c != '?' && c != '#'
  | _ => []

/-- The text before the first occurrence of a character, or the whole text. -/
def upTo (d : Char) (s : Text) : Text := s.takeWhile (· != d)

/-- The host named by an authority. A zone after a percent sign keeps its case. -/
def hostOf (authority : Text) : Option Text :=
  let place := match Text.cutAtLast? '@' authority with
    | some (_, place) => place
    | none => authority
  let host := match Text.cutAt? '[' place with
    | some (_, bracketed) => upTo ']' bracketed
    | none => upTo ':' place
  if host.isEmpty then none
  else some (Text.lower (upTo '%' host) ++ host.dropWhile (· != '%'))

def checkAuthority (authority : Text) : Except AddressError Unit := do
  let opens := List.elem '[' authority
  let closes := List.elem ']' authority
  if opens != closes then throw .unpairedBracket
  if opens then
    match Text.cutAt? '[' authority with
    | some (_, bracketed) => checkBracketed (upTo ']' bracketed)
    | none => pure ()
  if authority.any fun c => disguisedSigns.contains c.toNat then throw (.disguisedSign authority)

def split (s : Text) : Except AddressError Address := do
  let (scheme, rest) := splitScheme (cleaned s)
  let named := authority rest
  checkAuthority named
  return { scheme := scheme, host := hostOf named }

end Address

end ContentFilters

import ContentFilters.Html.Document.StartTag

/-!
# Reading the tokens of a document

The tokens are read from left to right. Where a construct is incomplete because the document ends
inside it, reading goes on with less patience: the start of the construct becomes text, and a
reference that cannot be read makes the whole rest text. Inside a script or a style sheet everything
up to the end tag is text; without an end tag it is lost, but for what stands before something that
looks like one.
-/
namespace ContentFilters.Html.Document

/-! ## Declarations and comments -/

/-- The text before the first closing of a comment, two hyphens and a bracket with blanks between
them, and the text after it. -/
def cutComment? : Text → Option (Text × Text)
  | '-' :: '-' :: rest =>
    match rest.dropWhile Text.isBlank with
    | '>' :: after => some ([], after)
    | _ => (cutComment? ('-' :: rest)).map fun p => ('-' :: p.1, p.2)
  | c :: rest => (cutComment? rest).map fun p => (c :: p.1, p.2)
  | [] => none

/-- The text before the first closing of a marked section and the text after it. The closing is one
square bracket, or two, and an angle bracket, with blanks between them. -/
def cutSection? (double : Bool) : Text → Option (Text × Text)
  | [] => none
  | c :: rest =>
    match closing c rest with
    | some after => some ([], after)
    | none => (cutSection? double rest).map fun p => (c :: p.1, p.2)
where
  /-- The text after a closing that begins with a character. -/
  closing (c : Char) (rest : Text) : Option Text :=
    if c != ']' then none
    else
      let inner := rest.dropWhile Text.isBlank
      let inner? := if double then
          match inner with
          | ']' :: more => some (more.dropWhile Text.isBlank)
          | _ => none
        else some inner
      match inner? with
      | some ('>' :: after) => some after
      | _ => none

def isSectionChar (c : Char) : Bool :=
  Text.isLetter c || Text.isDigit c || c = '-' || c = '_' || c = '.'

/-- Reads a marked section; `s` is the text after its opening square bracket. -/
def readSection (s : Text) : Reading :=
  if s.isEmpty then .incomplete
  else if !((s.head?.map Text.isLetter).getD false) then .rejected
  else
    let name := s.takeWhile isSectionChar
    if ((s.drop name.length).dropWhile Text.isBlank).isEmpty then .incomplete
    else
      let key := String.ofList (name.map Text.lowerAscii)
      let double := ["temp", "cdata", "ignore", "include", "rcdata"].contains key
      if !double && !(["if", "else", "endif"].contains key) then .rejected
      else match cutSection? double s with
        | none => .incomplete
        | some (inner, after) =>
          if (inner.take 6).map Text.lowerAscii == "cdata[".toList then
            .found [.characterData (inner.drop 6)] after
          else .found [.declaration inner] after

/-- A construct that reaches to the next closing bracket. -/
def upToBracket (s : Text) (make : Text → Token) : Reading :=
  match Text.cutAt? '>' s with
  | some (inner, after) => .found [make inner] after
  | none => .incomplete

/-- Reads what follows the angle bracket and the exclamation mark of a declaration. -/
def readDeclaration (s : Text) : Reading :=
  match s with
  | '-' :: '-' :: rest =>
    match cutComment? rest with
    | some (inner, after) => .found [.comment inner] after
    | none => .incomplete
  | '[' :: rest => readSection rest
  | _ =>
    if (s.take 7).map Text.lowerAscii == "doctype".toList then
      upToBracket s fun inner => .documentType (inner.drop 8)
    else upToBracket s .comment

/-! ## End tags -/

def isEndTagChar (c : Char) : Bool :=
  isSectionChar c || c = ':'

/-- The name of an end tag that holds nothing but a name and blanks. -/
def plainEndTag? (inner : Text) : Option Text :=
  let inner := inner.dropWhile Text.isBlank
  let name := inner.takeWhile isEndTagChar
  if (name.head?.map Text.isLetter).getD false && Text.allBlank (inner.drop name.length) then
    some (Text.lower name)
  else none

def readEndTag (s : Text) : Reading :=
  match Text.cutAt? '>' s with
  | none => .incomplete
  | some (inner, after) =>
    match plainEndTag? inner with
    | some name => .found [.endTag name] after
    | none =>
      if (s.head?.map Text.isLetter).getD false then
        .found [.endTag (Text.lower (s.takeWhile (!endsTagName ·)))] after
      else if inner.isEmpty then .found [] after
      else .found [.comment inner] after

/-! ## Scripts and style sheets -/

/-- Elements whose content is text up to their end tag. -/
def scriptNames : List Text := ["script".toList, "style".toList]

/-- The letter that a character is taken for where an end tag is looked for at first: in lower case,
and with the long s and two letters that have or lack the dot of an i among them. -/
def looseLetter (c : Char) : Char :=
  if c.toNat = 0x17F then 's'
  else if c.toNat = 0x130 || c.toNat = 0x131 then 'i'
  else Text.lowerAscii c

/-- The text after the end tag of a script at the start of a text; `letter` says how the letters of
the tag are read. -/
def afterScriptEnd? (letter : Char → Char) (name : Text) (s : Text) : Option Text :=
  match s with
  | '<' :: '/' :: rest =>
    let inner := rest.dropWhile Text.isBlank
    if (inner.take name.length).map letter == name then
      match (inner.drop name.length).dropWhile Text.isBlank with
      | '>' :: after => some after
      | _ => none
    else none
  | _ => none

/-- The content of a script and the text after its end tag. -/
def cutScript? (name : Text) : Text → Option (Text × Text)
  | [] => none
  | c :: rest =>
    match afterScriptEnd? Text.lowerAscii name (c :: rest) with
    | some after => some ([], after)
    | none => (cutScript? name rest).map fun p => (c :: p.1, p.2)

/-- The text after the last thing that looks like an end tag of a script. -/
def afterLastLookalike? (name : Text) : Text → Option Text
  | [] => none
  | c :: rest =>
    (afterLastLookalike? name rest).or (afterScriptEnd? looseLetter name (c :: rest))

/-- What is kept of a script without an end tag: the text up to the last thing that looks like one,
that included. -/
def keptScript (name s : Text) : List Token :=
  match afterLastLookalike? name s with
  | some lost => [.text (s.take (s.length - lost.length))]
  | none => []

def withScript : Reading → Reading
  | .found [.startTag name attributes false] rest =>
    if scriptNames.contains name then
      match cutScript? name rest with
      | some (content, after) =>
        .found [.startTag name attributes false, .text content, .endTag name] after
      | none => .found (.startTag name attributes false :: keptScript name rest) []
    else .found [.startTag name attributes false] rest
  | reading => reading

def readMarkup (s : Text) : Reading :=
  match s with
  | '/' :: rest => readEndTag rest
  | '!' :: rest => readDeclaration rest
  | '?' :: rest => upToBracket rest .instruction
  | c :: _ => if Text.isLetter c then withScript (readStartTag s) else .found [.text ['<']] s
  | [] => .incomplete

/-! ## References -/

inductive ReferenceReading where
  | found (s : Text) (rest : Text)
  /-- The reference cannot be read; the text was passed over, up to `rest`. -/
  | stuck (passed rest : Text)

/-- What a reference by number stands for in text. -/
def numberedText (n : Nat) : Text :=
  match Reference.windowsChar? n with
  | some c => [c]
  | none => [if Reference.isNoChar n then Reference.replacementChar else Char.ofNat n]

/-- A reference by number, if the text goes on behind it. -/
def numbered? (base : Nat) (isDigitOfBase : Char → Bool) (s : Text) : Option (Text × Text) :=
  let digits := s.takeWhile isDigitOfBase
  match s.drop digits.length with
  | [] => none
  | c :: rest =>
    if digits.isEmpty || Text.isHexDigit c then none
    else
      some (numberedText (Reference.number base digits), if c = ';' then rest else c :: rest)

def isReferenceChar (c : Char) : Bool :=
  Text.isLetter c || Text.isDigit c || c = '-' || c = '.'

/-- What a reference by name stands for in text. An unknown one loses its semicolon. -/
def namedText (name : Text) : Text := (Reference.named? name).getD ('&' :: name)

def readReference (s : Text) : ReferenceReading :=
  match s with
  | '#' :: rest =>
    let numbered := match rest with
      | 'x' :: digits | 'X' :: digits => numbered? 16 Text.isHexDigit digits
      | _ => numbered? 10 Text.isDigit rest
    match numbered with
    | some (characters, after) => .found characters after
    | none => if List.elem ';' rest then .stuck ['&', '#'] rest else .stuck [] ('&' :: s)
  | [] => .stuck [] ['&']
  | c :: _ =>
    if !Text.isLetter c then .found ['&'] s
    else
      let name := s.takeWhile isReferenceChar
      match s.drop name.length with
      | d :: rest => .found (namedText name) (if d = ';' then rest else d :: rest)
      | [] =>
        let shorter := Text.dropEndWhile (fun c => Text.isLetter c || Text.isDigit c) name
        if shorter.length > 1 then
          .found (namedText shorter.dropLast) (s.drop shorter.dropLast.length)
        else .stuck [] (if s.length = 1 then s else '&' :: s)

/-! ## The loop -/

/-- The part of an incomplete construct that becomes text, its angle bracket included, and the text
after it. -/
def brokenOff (s : Text) : Text × Text :=
  match Text.cutAt? '>' s with
  | some (inner, after) => ('<' :: inner ++ ['>'], after)
  | none =>
    match Text.cutAt? '<' s with
    | some (inner, after) => ('<' :: inner, '<' :: after)
    | none => (['<'], s)

def isPlain (c : Char) : Bool := c != '<' && c != '&'

/-- Reads tokens, or nothing if no document can hold the text. `patient` is lost at the first
construct that is incomplete. `budget` is spent by each construct and bounds their number. -/
def tokensFrom : Nat → Bool → Text → Option (List Token)
  | 0, _, _ => some []
  | budget + 1, patient, s =>
    match s with
    | [] => some []
    | '<' :: rest =>
      match readMarkup rest with
      | .found tokens after => (tokensFrom budget patient after).map (tokens ++ ·)
      | .rejected => none
      | .incomplete =>
        if patient then tokensFrom budget false s
        else
          let (shown, after) := brokenOff rest
          (tokensFrom budget false after).map (.text shown :: ·)
    | '&' :: rest =>
      match readReference rest with
      | .found characters after => (tokensFrom budget patient after).map (.text characters :: ·)
      | .stuck passed after =>
        if patient then (tokensFrom budget false after).map (.text passed :: ·)
        else some [.text (passed ++ after)]
    | c :: rest =>
      (tokensFrom budget patient (rest.dropWhile isPlain)).map
        (.text (c :: rest.takeWhile isPlain) :: ·)

/-- The tokens of a document, or nothing if no document can hold the text. Every construct takes at
least one character, and patience is lost once, which bounds the constructs. -/
def tokens? (s : Text) : Option (List Token) := tokensFrom (s.length + 2) true s

end ContentFilters.Html.Document

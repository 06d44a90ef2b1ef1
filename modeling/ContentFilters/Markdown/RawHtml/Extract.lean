import ContentFilters.Markdown.RawHtml.Nest
import ContentFilters.Markdown.RawHtml.Tag

/-!
# HTML blocks of a Markdown source

An HTML block begins with the tag of a block at the start of a line and goes on to the end tag that
closes it. It is set aside as it is, with empty lines around its mark, before anything else is read.
What follows the block in the same line is no start of a line, but a further block may begin there.
Tags, comments and references inside of paragraphs stay in the text.

The source is read from left to right. Where the source ends inside of a construct, the start of the
construct is text.
-/
namespace ContentFilters.Markdown.RawHtml

open Text (Pattern)

structure Extraction where
  /-- Whether elements may ask for their content to be read. -/
  nested : Bool
  /-- The text that remains, the last piece first. -/
  document : List Text := []
  /-- The HTML that is being collected, the last piece first. -/
  pending : List Text := []
  /-- Whether an HTML block is open. -/
  inBlock : Bool := false
  /-- Whether an HTML block ended in this line. -/
  afterBlock : Bool := false
  /-- The open tags of the HTML block, the innermost first. -/
  openTags : List Text := []
  /-- The script or style sheet that is open. -/
  script : Option Text := none
  /-- The open elements that hold Markdown, the innermost first. -/
  levels : List Level := []

/-- Where a construct stands: the characters before it in its line, the nearest first, and the
source from it on. -/
structure Place where
  line : Text
  source : Text

/-- Whether a place is at the start of a line, but for three blanks at most. -/
def Place.atLineStart (place : Place) : Bool :=
  place.line.length ≤ 3 && Text.allBlank place.line

/-- Whether an empty line follows a text that the source goes on with. -/
def Place.blankAfter (place : Place) (s : Text) : Bool :=
  (Pattern.rounds true 2 (some 2) (.seq .spaces (.one (· = '\n')))).startsWith
    (place.source.drop s.length)

def Place.upToBracket (place : Place) (name : Text) : Text :=
  match Text.cutAt? '>' place.source with
  | some (inner, _) => inner ++ ['>']
  | none => '<' :: '/' :: name ++ ['>']

namespace Extraction

/-- Adds a piece to the text that remains. -/
def put (x : Extraction) (s : Text) : Extraction := { x with document := s :: x.document }

/-- Adds a piece to the HTML that is being collected. -/
def collect (x : Extraction) (s : Text) : Extraction := { x with pending := s :: x.pending }

/-- Makes sure that the text that remains does not end in a single line feed. -/
def breakLine (x : Extraction) : Extraction :=
  match x.document with
  | last :: _ =>
    if ['\n'].isSuffixOf last && !(['\n', '\n'].isSuffixOf last) then x.put ['\n'] else x
  | [] => x

def addText (x : Extraction) (s : Text) : Extraction :=
  let x := if x.afterBlock && List.elem '\n' s then { x with afterBlock := false } else x
  if x.inBlock then x.collect s
  else if x.levels.isEmpty then x.put s
  else { x with levels := addToInnermost s x.levels }

def innermost? (x : Extraction) : Option Content := x.levels.head?.map (·.content)

/-- Sets the collected HTML aside. -/
def keepPending (x : Extraction) : Noting Extraction := do
  let mark ← keepHtml (.text x.pending.reverse.flatten)
  return { x.put mark with pending := [] }

def addEmpty (x : Extraction) (place : Place) (s : Text) (block : Bool) : Noting Extraction := do
  if x.inBlock || x.levels.isEmpty then
    if x.inBlock || x.afterBlock then return x.collect s
    else if place.atLineStart && block then
      let blank := place.blankAfter s
      let mark ← keepHtml (.text (if blank then s ++ ['\n'] else s))
      let x := { x with afterBlock := !blank }
      return (x.breakLine.put mark).put ['\n', '\n']
    else return x.put s
  else if place.atLineStart && block then
    let mark ← keepHtml (.text s)
    return x.addText ('\n' :: mark ++ ['\n', '\n'])
  else if x.innermost? == some .raw then
    let mark ← keepHtml (.text s)
    return x.addText mark
  else return x.addText s

/-- A tag inside of a line. -/
def addLineTag (x : Extraction) (s : Text) : Noting Extraction := do
  if x.innermost? == some .raw then
    let mark ← keepHtml (.text s)
    return x.addText mark
  else return x.addText s

/-- A start tag as part of an HTML block, or as the first tag of one. -/
def startRaw (x : Extraction) (place : Place) (tag : StartTag) : Noting Extraction := do
  if emptyNames.contains (String.ofList tag.name) then
    x.addEmpty place tag.source (isBlockName tag.name)
  else
    let begins := isBlockName tag.name && (x.afterBlock || place.atLineStart)
    let x := if begins then { x.put ['\n'] with inBlock := true } else x
    if x.inBlock then
      return { x.collect tag.source with openTags := tag.name :: x.openTags }
    else return { x.put tag.source with script := none }

/-- Sets the outermost of the open elements aside when it has ended. -/
def keepElement (x : Extraction) (place : Place) (name : Text) (e : Element) :
    Noting Extraction := do
  let x := x.breakLine
  let e ← flatten e
  let mark ← keepHtml (.element e)
  let x := (x.put mark).put ['\n', '\n']
  return if place.blankAfter (place.upToBracket name) then x else { x with afterBlock := true }

def endLevel (x : Extraction) (place : Place) (name : Text) : Noting Extraction := do
  let (levels, ended) := endElement (String.ofList name) x.levels
  let x := { x with levels := levels }
  match ended with
  | none => return x
  | some e => x.keepElement place name e

def isOpen (x : Extraction) (name : Text) : Bool :=
  x.levels.any (·.element.tag == String.ofList name)

/-- The attributes of a tag; one without a value has its name as value, and the last value of a name
counts. -/
def attributesOfTag (tag : StartTag) : Attributes :=
  tag.attributes.foldl (fun found (key, value) => assign key (value.getD key) found) []

/-- The tag of an empty element written anew without its request, or as it is if it has none. -/
def emptySource (tag : StartTag) : Text :=
  let attributes := attributesOfTag tag
  if (attributes.lookup request.toList).isNone then tag.source
  else
    let written := (attributes.filter fun (key, _) => key != request.toList).flatMap
      fun (key, value) => ' ' :: key ++ '=' :: '"' :: (value.flatMap fun c =>
        if c = '&' then "&amp;".toList else if c = '>' then "&gt;".toList
        else if c = '"' then "&quot;".toList else [c]) ++ ['"']
    '<' :: tag.name ++ written ++ ['>']

def startTag (x : Extraction) (place : Place) (tag : StartTag) : Noting Extraction := do
  let name := String.ofList tag.name
  let lineStart := place.atLineStart || x.afterBlock
  if !x.nested then x.startRaw place tag
  else if emptyNames.contains name && lineStart then
    x.addEmpty place (emptySource tag) true
  else if blockNames.contains name &&
      (lineStart || (x.levels.head?.map (·.fresh)).getD false) then
    let attributes := attributesOfTag tag
    let content := contentOf x.innermost? name attributes
    if x.inBlock || (content == .raw && x.levels.isEmpty) then x.startRaw place tag
    else
      let x ← if x.isOpen ['p'] then x.endLevel place ['p'] else pure x
      let e : Element := { tag := name, attributes := attributes }
      let e := e.set request content.toText
      return { x with levels := { content := content, element := e } :: x.levels }
  else if x.inBlock then x.startRaw place tag
  else
    let x ← x.addLineTag tag.source
    return { x with script := none }

def closedTag (x : Extraction) (place : Place) (tag : StartTag) : Noting Extraction :=
  let s := if x.nested && emptyNames.contains (String.ofList tag.name) then emptySource tag
    else tag.source
  x.addEmpty place s (isBlockName tag.name)

def endRaw (x : Extraction) (place : Place) (name : Text) : Noting Extraction := do
  let s := place.upToBracket name
  let x := x.collect s
  let openTags :=
    if x.openTags.contains name then (x.openTags.dropWhile (· != name)).drop 1 else x.openTags
  let x := { x with openTags := openTags }
  if openTags.isEmpty then
    let blank := place.blankAfter s
    let x := if blank then x.collect ['\n'] else { x with afterBlock := true }
    let x ← keepPending { x with inBlock := false }
    return x.put ['\n', '\n']
  else return x

def endTag (x : Extraction) (place : Place) (name : Text) : Noting Extraction :=
  if x.inBlock then x.endRaw place name
  else if !x.nested then pure (x.put (place.upToBracket name))
  else if blockNames.contains (String.ofList name) && x.isOpen name then x.endLevel place name
  else x.addLineTag (place.upToBracket name)

end Extraction

/-! ## Constructs -/

inductive Step where
  | next (x : Extraction) (rest : Text)
  /-- The source ends inside of the construct. -/
  | incomplete

/-- The part of an incomplete construct that is text, and the source after it. -/
def brokenOff (s : Text) : Text × Text :=
  let inner := s.drop 1
  match Text.cutAt? '>' inner with
  | some (before, after) => ('<' :: before ++ ['>'], after)
  | none =>
    match Text.cutAt? '<' inner with
    | some (before, after) => ('<' :: before, '<' :: after)
    | none => (['<'], inner)

/-- A construct that is read without its content being looked at. -/
def passEmpty (x : Extraction) (place : Place) (rest : Text) (block : Bool) : Noting Step := do
  let s := place.source.take (place.source.length - rest.length)
  return .next (← x.addEmpty place s block) rest

def readEndTag (x : Extraction) (place : Place) : Noting Step := do
  match Text.cutAt? '>' place.source with
  | none => return .incomplete
  | some (_, after) =>
    match plainEndTag.match? place.source with
    | some found =>
      let name := Text.lower (found.part 1)
      if (x.script.map (· != name)).getD false then
        return .next (x.addText (place.upToBracket [])) after
      else return .next { (← x.endTag place name) with script := none } after
    | none =>
      if x.script.isSome then return .next (x.addText (place.upToBracket [])) after
      else match tagName.match? (place.source.drop 2) with
        | some found => return .next (← x.endTag place (Text.lower (found.part 1))) after
        | none => passEmpty x place after false

/-- Reads what begins with an angle bracket and an exclamation mark and is no comment. -/
def readDeclaration (x : Extraction) (place : Place) : Noting Step := do
  let upTo (closing : Text) (block : Bool) : Noting Step :=
    match Text.cut? closing place.source with
    | none => return .incomplete
    | some (_, after) => passEmpty x place after block
  if !(place.atLineStart || x.afterBlock || !x.levels.isEmpty) then
    return .next (x.addText ['<', '!']) (place.source.drop 2)
  else if "<![CDATA[".toList.isPrefixOf place.source then upTo "]]>".toList true
  else if "<![".toList.isPrefixOf place.source then
    match Text.cutAt? '>' place.source with
    | none => return .next (x.addText ['<']) (place.source.drop 1)
    | some (_, after) => passEmpty x place after false
  else
    let documentType := (place.source.take 9).map Text.lowerAscii == "<!doctype".toList
    upTo ['>'] documentType

def readMarkup (x : Extraction) (place : Place) : Noting Step := do
  let s := place.source
  match s with
  | '<' :: '/' :: '>' :: rest => return .next (x.addText ['<', '/', '>']) rest
  | '<' :: '/' :: _ => readEndTag x place
  | '<' :: '!' :: '-' :: '-' :: inner =>
    match Text.cut? "-->".toList inner with
    | none => return .next (x.addText ['<']) (s.drop 1)
    | some (_, after) => passEmpty x place after true
  | '<' :: '!' :: _ => readDeclaration x place
  | '<' :: '?' :: rest =>
    if !(place.atLineStart || x.afterBlock || !x.levels.isEmpty) then
      return .next (x.addText ['<', '?']) rest
    else match Text.cut? ['?', '>'] rest with
      | none => return .incomplete
      | some (_, after) => passEmpty x place after true
  | _ =>
    if ((s.drop 1).head?.map Text.isLetter).getD false then
      match readStartTag s with
      | .text shown rest => return .next (x.addText shown) rest
      | .tag tag rest =>
        if tag.closed then return .next (← x.closedTag place tag) rest
        else
          let script := if tag.name == "script".toList || tag.name == "style".toList
            then some tag.name else x.script
          return .next (← { x with script := script }.startTag place tag) rest
    else return .next (x.addText ['<']) (s.drop 1)

/-- A reference by number; its first part is the number. -/
def numberedReference : Pattern :=
  let digits := .alt (.oneOrMore (.one Text.isDigit))
    (.seq (.oneOf "xX") (.oneOrMore (.one Text.isHexDigit)))
  .inOrder [.exactly "&#", .part 1 digits, .one (!Text.isHexDigit ·)]

def namedReference : Pattern :=
  .inOrder [.one (· = '&'), .one Text.isLetter,
    .many (.one fun c => Text.isLetter c || Text.isDigit c || c = '-' || c = '.'), .one (· = ';')]

/-- Reads what stands at an ampersand. A reference by number gets its semicolon if it has none. -/
def readReference (x : Extraction) (place : Place) : Noting Step := do
  let s := place.source
  if "&#".toList.isPrefixOf s then
    match numberedReference.match? s with
    | none => return .incomplete
    | some found =>
      let number := found.part 1
      let after := s.drop (number.length + 2)
      let x ← x.addEmpty place ("&#".toList ++ number ++ [';']) false
      return .next x (if after.head? == some ';' then after.drop 1 else after)
  else match namedReference.match? s with
    | some found => return .next (← x.addEmpty place found.whole false) found.after
    | none => return .next (x.addText ['&']) (s.drop 1)

/-- The characters of a line after some text, the nearest first. -/
def lineAfter (line s : Text) : Text :=
  let last := s.reverse.takeWhile (· != '\n')
  if List.elem '\n' s then last else last ++ line

def scriptEnd (name : Text) : Pattern :=
  .inOrder ([.exactly "</", .many .blank] ++
    name.map (fun c => .one fun d => Text.lowerAscii d = c) ++ [.many .blank, .one (· = '>')])

/-- Reads a source from a place on. `patient` is lost at the first construct that is incomplete.
`budget` bounds the number of constructs. -/
def readFrom : Nat → Bool → Extraction → Text → Text → Noting Extraction
  | 0, _, x, _, _ => return x
  | budget + 1, patient, x, line, s => do
    let isPlain (c : Char) : Bool := c != '<' && c != '&'
    match x.script, s with
    | _, [] => return x
    | some name, _ =>
      match (scriptEnd name).find? s with
      | none => return x.addText s
      | some found =>
        let inner := found.before
        let x := if inner.isEmpty then x else x.addText inner
        let here := s.drop inner.length
        let line := lineAfter line inner
        match ← readEndTag x ⟨line, here⟩ with
        | .incomplete => return x.addText here
        | .next x rest =>
          readFrom budget patient x (lineAfter line (here.take (here.length - rest.length))) rest
    | none, '<' :: inner =>
      match ← readMarkup x ⟨line, s⟩ with
      | .next x rest =>
        readFrom budget patient x (lineAfter line (s.take (s.length - rest.length))) rest
      | .incomplete =>
        let (shown, rest) := brokenOff ('<' :: inner)
        readFrom budget false (x.addText shown) (lineAfter line shown) rest
    | none, '&' :: inner =>
      match ← readReference x ⟨line, s⟩ with
      | .next x rest =>
        readFrom budget patient x (lineAfter line (s.take (s.length - rest.length))) rest
      | .incomplete =>
        if !patient then return x.addText s
        else if List.elem ';' inner then
          readFrom budget false (x.addText ['&', '#']) (lineAfter line ['&', '#']) (s.drop 2)
        else return x.addText s
    | none, _ =>
      let shown := s.takeWhile isPlain
      readFrom budget patient (x.addText shown) (lineAfter line shown) (s.dropWhile isPlain)

/-- Ends the extraction: what is still being collected is set aside, and what is still open ends. -/
def finish (x : Extraction) : Noting Extraction := do
  let x ← if x.pending.isEmpty then pure x else x.keepPending
  match x.levels.getLast? with
  | none => return x
  | some outermost => x.endLevel ⟨[], []⟩ outermost.element.tag.toList

def setAsideAll (nested : Bool) (s : Text) : Noting Text := do
  let x ← readFrom (s.length + 1) true { nested := nested } [] s
  let x ← finish x
  return x.document.reverse.flatten

end ContentFilters.Markdown.RawHtml

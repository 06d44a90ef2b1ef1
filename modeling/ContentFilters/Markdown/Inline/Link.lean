import ContentFilters.Markdown.Inline.Basic
import ContentFilters.Text.LowerCase

/-!
# Links and images

The text of a link or an image stands in square brackets. Behind it stands the target: in round
brackets an address and perhaps a title in quotes, or in square brackets the name of a target that
is declared elsewhere. A name may also be left out; the text is then the name.
-/
namespace ContentFilters.Markdown.Inline

open Text (Pattern)

/-- The text up to the square bracket that closes one already open, brackets in it being closed too,
and the text after it. `depth` is the number of brackets open besides. -/
def bracketed? (depth : Nat) : Text → Option (Text × Text)
  | [] => none
  | ']' :: rest =>
    match depth with
    | 0 => some ([], rest)
    | outer + 1 => (bracketed? outer rest).map fun p => (']' :: p.1, p.2)
  | c :: rest =>
    (bracketed? (if c = '[' then depth + 1 else depth) rest).map fun p => (c :: p.1, p.2)

structure ReadTarget where
  address : Text
  title : Option Text
  rest : Text

/-! ## Targets in round brackets -/

/-- An opening bracket, and perhaps all of a target whose address is in angle brackets. Its parts
are the address and the title, with brackets and quotes. -/
def opening : Pattern :=
  let quotedBy (quote : Char) : Pattern :=
    .inOrder [.one (· = quote), .many (.one (· != quote)), .one (· = quote)]
  .inOrder [.one (· = '('), .many .blank,
    .optional (.inOrder [
      .part 1 (.inOrder [.one (· = '<'), .many (.noneOf "<>"), .one (· = '>')]), .many .blank,
      .optional (.seq (.part 2 (.alt (quotedBy '\'') (quotedBy '"'))) (.many .blank)),
      .one (· = ')')])]

/-- A kind of quote met in a target: where the text after its first occurrence begins, and where
the text after its last further one does. -/
structure QuoteSeen where
  quote : Char
  start : Nat
  stop : Option Nat := none

/-- What is known while a target is scanned for its closing bracket. Once a quote was met, brackets
count only for a target whose quotes turn out to be no title. -/
structure TargetScan where
  /-- Brackets still open. -/
  depth : Nat := 1
  /-- Brackets still open if the quotes are no title. -/
  plainDepth : Nat := 1
  /-- The place behind the bracket that closes the target if the quotes are no title. -/
  plainEnd : Option Nat := none
  first : Option QuoteSeen := none
  second : Option QuoteSeen := none
  /-- The last character that is no space. -/
  last : Option Char := none

def TargetScan.justClosed (scan : TargetScan) (seen : Option QuoteSeen) : Option QuoteSeen :=
  seen.filter fun q => q.stop.isSome && scan.last == some q.quote

def TargetScan.step (scan : TargetScan) (place : Nat) (c : Char) : TargetScan :=
  let inTitle := scan.first.isSome
  if c = '(' then
    if !inTitle then { scan with depth := scan.depth + 1 }
    else { scan with plainDepth := scan.plainDepth - 1 }
  else if c = ')' then
    if (scan.justClosed scan.first).isSome || (scan.justClosed scan.second).isSome then
      { scan with depth := 0 }
    else if !inTitle then { scan with depth := scan.depth - 1 }
    else if scan.plainDepth = 1 then { scan with plainDepth := 0, plainEnd := some (place + 1) }
    else { scan with plainDepth := scan.plainDepth - 1 }
  else if c = '\'' || c = '"' then
    match scan.first, scan.second with
    | none, _ =>
      { scan with plainDepth := scan.depth, depth := 1, first := some ⟨c, place + 1, none⟩ }
    | some q, none =>
      if c = q.quote then { scan with first := some { q with stop := some (place + 1) } }
      else { scan with second := some ⟨c, place + 1, none⟩ }
    | some q, some r =>
      if c = q.quote then { scan with first := some { q with stop := some (place + 1) } }
      else { scan with second := some { r with stop := some (place + 1) } }
  else scan

def slice (s : Text) (start stop : Nat) : Text := (s.take stop).drop start

/-- The target of a text that is scanned from a place on. If the text ends before its brackets are
closed, the target ends at the bracket that would close it without a title, and where there is none,
before the last character but one. -/
def scanTarget (s : Text) (scan : TargetScan) (place : Nat) : Text → Option ReadTarget
  | [] =>
    if scan.plainDepth = 0 then
      let stop := scan.plainEnd.getD (s.length - 1)
      some ⟨s.take (stop - 1), none, s.drop stop⟩
    else none
  | c :: rest =>
    let next := scan.step place c
    if next.depth = 0 then
      match (scan.justClosed scan.first).or (scan.justClosed scan.second) with
      | some q =>
        some ⟨s.take (q.start - 1), some (slice s q.start ((q.stop.getD 0) - 1)), rest⟩
      | none => some ⟨s.take place, none, rest⟩
    else scanTarget s (if c = ' ' then next else { next with last := some c }) (place + 1) rest

def dropQuotes (s : Text) : Text :=
  match s with
  | '"' :: rest => if s.getLast? == some '"' then rest.dropLast else s
  | '\'' :: rest => if s.getLast? == some '\'' then rest.dropLast else s
  | _ => s

/-- The target in round brackets at the start of a text. -/
def roundTarget? (notes : Notes) (s : Text) : Option ReadTarget :=
  match opening.match? s with
  | none => none
  | some found =>
    let target? : Option ReadTarget := match found.part? 1 with
      | some address =>
        some ⟨Text.trim (address.drop 1).dropLast,
          (found.part? 2).map fun title => (title.drop 1).dropLast, found.after⟩
      | none => scanTarget found.after {} 0 found.after
    target?.map fun target =>
      let clean (title : Text) : Text :=
        (dropQuotes (notes.withPieces (Text.trim title))).map fun c =>
          if Text.isBlank c then ' ' else c
      { target with
        address := Text.trim (notes.withPieces target.address)
        title := target.title.map clean }

/-! ## Rules -/

abbrev Make := Notes → Text → Target → Element

def withTitle (title : Option Text) (e : Element) : Element :=
  match title with
  | some title => e.set "title" title
  | none => e

def makeLink : Make := fun _ s target =>
  withTitle target.title ((Element.ofText "a" s).set "href" target.address)

def makeImage : Make := fun notes s target =>
  let e : Element := { tag := "img" }
  (withTitle target.title (e.set "src" target.address)).set "alt" (notes.withPieces s)

def linkStart : Pattern := .seq (.notBehind (· = '!')) (.one (· = '['))

def imageStart : Pattern := .exactly "!["

/-- A text with a target in round brackets. -/
def withRoundTarget (pattern : Pattern) (make : Make) : Rule where
  pattern := pattern
  meaning := fun _ found => do
    let notes ← get
    match bracketed? 0 found.after with
    | none => return .rejected
    | some (s, after) =>
      match roundTarget? notes after with
      | none => return .rejected
      | some target =>
        return .made (.element (make notes s ⟨target.address, target.title⟩)) target.rest

def unifyBlanks (s : Text) : Text :=
  (Pattern.oneOrMore .blank).replace (fun _ => [' ']) s

/-- The name in square brackets at the start of a text, and the text after it. -/
def squareName : Pattern :=
  .inOrder [.optional .blank, .one (· = '['), .part 1 (.many (.noneOf "]")), .one (· = ']')]

/-- What a name refers to. A title that is empty is none. -/
def Notes.target? (notes : Notes) (name : Text) : Option Target :=
  (notes.targets.lookup name).map fun target =>
    { target with title := target.title.filter (!·.isEmpty) }

/-- A text with the name of a target behind it; `short` says whether the text itself is the name. -/
def withNamedTarget (pattern : Pattern) (short : Bool) (make : Make) : Rule where
  pattern := pattern
  meaning := fun _ found => do
    let notes ← get
    match bracketed? 0 found.after with
    | none => return .rejected
    | some (s, after) =>
      let named? : Option (Text × Text) :=
        if short then some (s, after)
        else (squareName.match? after).map fun name =>
          (if (name.part 1).isEmpty then s else name.part 1, name.after)
      match named? with
      | none => return .rejected
      | some (name, rest) =>
        match Notes.target? notes (unifyBlanks (Text.lower name)) with
        | none => return .passed rest
        | some target => return .made (.element (make notes s target)) rest

end ContentFilters.Markdown.Inline

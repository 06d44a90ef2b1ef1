import ContentFilters.Html.Reference
import ContentFilters.Markdown.Feature
import ContentFilters.Markdown.Notes
import ContentFilters.Markdown.Source
import ContentFilters.Markdown.Write
import ContentFilters.Text.Pattern

/-!
# Markup inside of lines

Each kind of markup inside of lines has a rule: a pattern that finds where it may stand, and what an
occurrence means. What is made of an occurrence is set aside, so that no later rule looks into it.
The rules here are those for code, escaped characters, plain addresses, line breaks, HTML and
references.
-/
namespace ContentFilters.Markdown.Inline

open Text (Pattern)

inductive Meaning where
  /-- Nothing; the search goes on behind the occurrence. -/
  | rejected
  /-- The text stays as it is up to what remains. -/
  | passed (rest : Text)
  | made (kept : Kept) (rest : Text)

/-- A rule for a kind of markup. The meaning of an occurrence may depend on the character before. -/
structure Rule where
  pattern : Pattern
  meaning : Option Char → Pattern.Found → Noting Meaning

def always (pattern : Pattern) (make : Pattern.Found → Kept) : Rule :=
  ⟨pattern, fun _ found => return .made (make found) found.after⟩

/-- Code between runs of backticks of one length, or pairs of backslashes before backticks. -/
def code : Rule :=
  let tick := Pattern.one (· = '`')
  let backslashes := .inOrder [.notBehind (· = '\\'),
    .part 1 (.oneOrMore (.exactly "\\\\")), .ahead true tick]
  let between := .inOrder [.notBehind (· = '\\'), .part 2 (.oneOrMore tick),
    .part 3 (.oneOrFew .character), .notBehind (· = '`'), .again 2, .notAhead tick]
  always (.alt backslashes between) fun found =>
    match found.part? 3 with
    | some s =>
      .element { tag := "code", prose := .settle (escapeCode (Text.trim s)) }
    | none =>
      let mark := (Mark.escaped '\\').toText
      .text (List.replicate ((found.part 1).length / 2) mark).flatten

/-- The characters that a backslash keeps from being read as markup. -/
def escapable (features : Features) : Text :=
  "\\`*_\x7b\x7d[]()>#+-.!".toList ++ if features.tables then ['|'] else []

def escaped (features : Features) : Rule where
  pattern := .seq (.one (· = '\\')) (.part 1 .character)
  meaning := fun _ found => return match found.part 1 with
    | [c] =>
      if List.elem c (escapable features) then
        .made (.text (Mark.escaped c).toText) found.after
      else .passed found.after
    | _ => .rejected

/-- A line break after two spaces. -/
def lineBreak : Rule := always (.exactly "  \n") fun _ => .element { tag := "br" }

def everyLineBreak : Rule := always (.exactly "\n") fun _ => .element { tag := "br" }

def loneSigns : Rule :=
  always (.inOrder [.behind fun c => (c.map Text.isBlank).getD true,
    .alt (.between 1 3 (.one (· = '*'))) (.between 1 3 (.one (· = '_'))),
    .alt (.ahead true .blank) .atLastLineEnd])
    fun found => .text found.whole

/-! ## Addresses -/

def address : Rule where
  pattern := .inOrder [.one (· = '<'),
    .part 1 (.inOrder [.alt (.oneOf "Ff") (.seq (.oneOf "Hh") (.oneOf "Tt")), .oneOf "Tt",
      .oneOf "Pp", .optional (.oneOf "Ss"), .exactly "://", .many (.noneOf "<>")]),
    .one (· = '>')]
  meaning := fun _ found => do
    let s := found.part 1
    let e : Element := { tag := "a", prose := .settle s }
    return .made (.element (e.set "href" ((← get).withPieces s))) found.after

/-- A character as a reference whose ampersand is not escaped: by name if it has a common one. -/
def disguised (named : Bool) (c : Char) : Text :=
  let known := if named then
      (Html.Reference.allOpenEnded.filter (·.characters == [c])).getLast?.map (·.name)
    else none
  Mark.ampersand.toText ++ (known.getD ('#' :: Mark.digits c.toNat)) ++ [';']

/-- A mail address in angle brackets. Its characters are written as references. -/
def mail : Rule where
  pattern := .inOrder [.one (· = '<'),
    .part 1 (.inOrder [.oneOrMore (.noneOf "<> !"), .one (· = '@'), .oneOrMore (.noneOf "@<> ")]),
    .one (· = '>')]
  meaning := fun _ found => do
    let s := (← get).withPieces (found.part 1)
    let scheme := "mailto:".toList
    let s := (Text.after? scheme s).getD s
    let e : Element := { tag := "a", prose := .settle (s.flatMap (disguised true)) }
    return .made (.element (e.set "href" ((scheme ++ s).flatMap (disguised false)))) found.after

/-! ## HTML -/

/-- A text of HTML with what was set aside put back as it stood there. Read elements are written,
and escaped characters get their backslashes back. `budget` bounds the depth of what was set
aside. -/
def asWritten (notes : Notes) : Nat → Text → Text
  | 0, s => s
  | budget + 1, s =>
    Mark.resolve (fun mark => match mark with
      | .piece n => notes.pieces[n]?.map fun kept => match kept with
        | .text t => '\\' :: t
        | .element e => asWritten notes budget (write e)
      | _ => none) s

def verbatim (pattern : Pattern) : Rule where
  pattern := pattern
  meaning := fun _ found => do
    let notes ← get
    let s := Mark.restoreEscaped (asWritten notes (notes.pieces.size + 1) found.whole)
    return .made (.text (← keepHtml (.text s))) found.after

def html : Rule :=
  let quotedBy (quote : Char) : Pattern :=
    .inOrder [.one (· = quote), .many (.one (· != quote)), .one (· = quote)]
  let tag := .inOrder [.optional (.one (· = '/')), .one Text.isLetter, .many (.noneOf "<>@ "),
    .optional (.seq (.one (· = ' '))
      (.many (.firstOf [quotedBy '"', quotedBy '\'', .noneOf "<>"])))]
  let comment := .inOrder [.exactly "!--",
    .many (.seq (.notAhead (.alt (.exactly "<!--") (.exactly "-->"))) .character), .exactly "--"]
  verbatim (.inOrder [.one (· = '<'), .alt tag comment, .one (· = '>')])

def reference : Rule :=
  verbatim (.inOrder [.one (· = '&'),
    .firstOf [.seq (.one (· = '#')) (.oneOrMore (.one Text.isDigit)),
      .seq (.exactly "#x") (.oneOrMore (.one Text.isHexDigit)),
      .oneOrMore (.one fun c => Text.isLetter c || Text.isDigit c)],
    .one (· = ';')])

end ContentFilters.Markdown.Inline

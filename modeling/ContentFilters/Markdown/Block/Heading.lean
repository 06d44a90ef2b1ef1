import ContentFilters.Markdown.Block.Basic

/-!
# Headings, lines across the page and quotations

A heading begins with number signs, or it is a line with equals signs or hyphens below it. Three or
more hyphens, low lines or stars in a line of their own are a line across the page. The lines of a
quotation begin with a closing bracket.
-/
namespace ContentFilters.Markdown.Block

open Text (Pattern)

/-- A heading with number signs. Its parts are the signs and the text. -/
def signed : Pattern :=
  .inOrder [.alt .atStart (.one (· = '\n')), .part 1 (.between 1 6 (.one (· = '#'))),
    .part 2 (.few (.alt (.seq (.one (· = '\\')) .inLine) (.noneOf "\\"))),
    .many (.one (· = '#')), .alt (.one (· = '\n')) .atLastLineEnd]

def headingTag (level : Nat) : String := "h" ++ toString level

/-- A heading with number signs; the lines before it are read first. -/
def signedHeading : Rule := fun read site => do
  match signed.find? site.block with
  | none => return none
  | some found =>
    let parent ← if found.before.isEmpty then pure site.parent
      else read site.around site.parent [found.before]
    let heading := Element.ofText (headingTag (found.part 1).length) (Text.trim (found.part 2))
    let after := if site.around = .looseList then outdent 1 found.after else found.after
    return some (parent.add heading, if found.after.isEmpty then site.rest else after :: site.rest)

def underlined : Pattern :=
  .inOrder [.few .inLine, .one (· = '\n'), .oneOrMore (.oneOf "=-"), .spaces,
    .alt (.one (· = '\n')) .atLineEnd]

def underlinedHeading : Rule := fun _ site => do
  if !underlined.startsWith site.block then return none
  match linesOf site.block with
  | title :: line :: more =>
    let level := if line.head? == some '=' then 1 else 2
    let rest := if more.isEmpty then site.rest else ofLines more :: site.rest
    return some (site.parent.add (.ofText (headingTag level) (Text.trim title)), rest)
  | _ => return none

/-- Whether a line goes across the page, and the line is nothing else: three or more of one sign,
with at most two spaces after each. -/
def isRuler (line : Text) : Bool :=
  let start := Text.leadingSpaces line
  let inner := dropEndSpaces (line.drop start)
  start ≤ 3 && ["-", "_", "*"].any fun sign =>
    let sign := sign.toList
    inner.all (fun c => c = ' ' || sign.head? == some c) && 3 ≤ inner.count (sign.head?.getD ' ') &&
      !Text.occursIn "   ".toList inner
where
  /-- A line without the spaces at its end. -/
  dropEndSpaces (s : Text) : Text := Text.dropEndWhile (· = ' ') s

/-- A line across the page; the lines before it are read first. -/
def ruler : Rule := fun read site => do
  let lines := linesOf site.block
  let before := lines.takeWhile (!isRuler ·)
  match lines.drop before.length with
  | [] => return none
  | _ :: after =>
    let before := dropEndLineFeeds (ofLines before)
    let parent ← if before.isEmpty then pure site.parent
      else read site.around site.parent [before]
    return some (parent.add { tag := "hr" }, putBack (dropLineFeeds (ofLines after)) site.rest)

/-- A line of a quotation; its first part is the text. -/
def quoted : Pattern :=
  .inOrder [.alt .atStart (.one (· = '\n')), .between 0 3 (.one (· = ' ')), .one (· = '>'),
    .optional (.one (· = ' ')), .part 1 (.many .inLine)]

def unquote (line : Text) : Text :=
  if Text.trim line == ['>'] then []
  else match quoted.match? line with
    | some found => found.part 1
    | none => line

/-- A quotation; the lines before it are read first. It goes on with the one before it. -/
def quotation : Rule := fun read site => do
  match quoted.find? site.block with
  | none => return none
  | some found =>
    let parent ← read site.around site.parent [found.before]
    let inner := ofLines ((linesOf (site.block.drop found.before.length)).map unquote)
    match parent.last?.filter (·.tag == "blockquote") with
    | some quote =>
      return some (parent.setLast (← read .quotation quote (blocksOf inner)), site.rest)
    | none =>
      let quote ← read .quotation { tag := "blockquote" } (blocksOf inner)
      return some (parent.add quote, site.rest)

end ContentFilters.Markdown.Block

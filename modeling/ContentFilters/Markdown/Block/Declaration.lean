import ContentFilters.Markdown.Block.Basic
import ContentFilters.Text.LowerCase

/-!
# Targets, abbreviations and footnotes

Some lines declare things and show nothing: where a reference leads, what an abbreviation means, and
the text of a footnote. What stands before or after them in their block is read as blocks of its
own.
-/
namespace ContentFilters.Markdown.Block

open Text (Pattern)

/-- The target of a reference. Its parts are the name, the address, the quote around the title, the
title in quotes and the title in brackets. -/
def targetLine : Pattern :=
  .inOrder [.atLineStart, .between 0 3 (.one (· = ' ')), .one (· = '['),
    .part 1 (.many (.noneOf "[]")), .exactly "]:", .spaces, .optional (.one (· = '\n')), .spaces,
    .part 2 (.oneOrMore (.one (!Text.isBlank ·))), .spaces,
    .optional (.seq (.one (· = '\n')) .spaces),
    .optional (.alt
      (.inOrder [.part 3 (.oneOf "\"'"), .part 4 (.many .inLine), .again 3, .spaces])
      (.inOrder [.one (· = '('), .part 5 (.many .inLine), .one (· = ')'), .spaces])),
    .atLineEnd]

def around (found : Pattern.Found) (rest : List Text) : List Text :=
  putBackUnlessBlank (dropEndLineFeeds found.before)
    (putBackUnlessBlank (dropLineFeeds found.after) rest)

def target : Rule := fun _ site => do
  match targetLine.find? site.block with
  | none => return none
  | some found =>
    let name := Text.lower (Text.trim (found.part 1))
    let address := Text.dropEndWhile (· = '>') ((found.part 2).dropWhile (· = '<'))
    let title := ((found.part? 4).filter (!·.isEmpty)).or (found.part? 5)
    modify fun notes => { notes with targets := (name, ⟨address, title⟩) :: notes.targets }
    return some (site.parent, around found site.rest)

/-- The meaning of an abbreviation. Its parts are the abbreviation and the meaning. -/
def abbreviationLine : Pattern :=
  .inOrder [.atLineStart, .exactly "*[", .part 1 (.few (.noneOf "\\")), .one (· = ']'),
    .optional (.one (· = ' ')), .one (· = ':'), .spaces, .optional (.one (· = '\n')), .spaces,
    .part 2 (.many .inLine), .atLineEnd]

/-- The meaning of an abbreviation. An empty pair of quotes takes the meaning back. -/
def abbreviation : Rule := fun _ site => do
  match abbreviationLine.find? site.block with
  | none => return none
  | some found =>
    let short := Text.trim (found.part 1)
    let meaning := Text.trim (found.part 2)
    if short.isEmpty || meaning.isEmpty then return none
    let change (known : List (Text × Text)) : List (Text × Text) :=
      if meaning == ['\'', '\''] || meaning == ['"', '"'] then known.filter (·.1 != short)
      else assign short meaning known
    modify fun notes => { notes with abbreviations := change notes.abbreviations }
    return some (site.parent, around found site.rest)

/-- The first line of a footnote. Its parts are the name and the text. -/
def footnoteLine : Pattern :=
  .inOrder [.atLineStart, .between 0 3 (.one (· = ' ')), .exactly "[^",
    .part 1 (.many (.noneOf "]")), .exactly "]:", .spaces, .part 2 (.many .inLine), .atLineEnd]

/-- The indented blocks that go on with a footnote, without their indentation, and the blocks after
them. A further footnote ends them. -/
def footnoteBlocks : List Text → List Text × List Text
  | [] => ([], [])
  | block :: rest =>
    if !isIndented block then ([], block :: rest)
    else match footnoteLine.find? block with
      | some found =>
        ([outdent 1 (dropEndLineFeeds found.before)], block.drop found.before.length :: rest)
      | none =>
        let (more, after) := footnoteBlocks rest
        (outdent 1 block :: more, after)

def footnote : Rule := fun _ site => do
  match footnoteLine.find? site.block with
  | none => return none
  | some found =>
    let first := found.part 2
    let more := dropLineFeeds found.after
    let (blocks, rest) : List Text × List Text :=
      match footnoteLine.find? more with
      | some next =>
        let before := outdent 1 (dropEndLineFeeds next.before)
        ([dropLineFeeds (first ++ '\n' :: before)], more.drop next.before.length :: site.rest)
      | none =>
        let s := Text.trimWhile (· = '\n') (first ++ '\n' :: outdent 1 more)
        let (others, rest) := footnoteBlocks site.rest
        (s :: others, rest)
    let s := dropEndBlanks (Text.join ['\n', '\n'] blocks)
    modify fun notes => { notes with footnotes := assign (found.part 1) s notes.footnotes }
    return some (site.parent, putBackUnlessBlank (dropEndLineFeeds found.before) rest)

end ContentFilters.Markdown.Block

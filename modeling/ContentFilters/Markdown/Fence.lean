import ContentFilters.Markdown.AttributeList
import ContentFilters.Markdown.Escape
import ContentFilters.Markdown.Feature
import ContentFilters.Markdown.Notes
import ContentFilters.Text.Word

/-!
# Fenced code

Code may stand between two lines of three or more tildes or backticks, the same in both. Behind the
first line may stand the language, or a list of attributes whose first class is the language. The
code is written at once and set aside as HTML, so that nothing in it is read as markup.
-/
namespace ContentFilters.Markdown.Fence

open Text (Pattern)

/-- A fenced piece of code. Its parts are the fence, the attribute list, the language, a quote, the
numbers of lines to be stressed, and the code. -/
def fenced : Pattern :=
  let list := .inOrder [.one (· = '\x7b'), .part 2 (.many .inLine), .one (· = '\x7d')]
  let language := .inOrder [.optional (.one (· = '.')),
    .part 3 (.many (.one fun c => Text.isWordChar c || List.elem c "#.+-".toList)), .spaces]
  let stressed := .inOrder [.exactly "hl_lines=", .part 4 (.oneOf "\"'"),
    .part 5 (.few .character), .again 4, .spaces]
  .inOrder [
    .part 1 (.seq .atLineStart (.alt (.rounds true 3 none (.one (· = '~')))
      (.rounds true 3 none (.one (· = '`'))))),
    .spaces,
    .alt list (.seq (.optional language) (.optional stressed)),
    .one (· = '\n'),
    .part 6 (.few .character), .behind (· == some '\n'),
    .again 1, .spaces, .atLineEnd]

/-- Lines to be stressed, written as a list of numbers; what is no list of numbers is empty. -/
def stressedLines (s : Text) : Text :=
  let numbers := (Text.words s).mapM Mark.number?
  let written := (numbers.getD []).map Mark.digits
  '[' :: Text.join [',', ' '] written ++ [']']

structure Caption where
  language : Option Text := none
  identifier : Text := []
  classes : List Text := []
  values : List (Text × Text) := []

def Caption.add (caption : Caption) : AttributeList.Entry → Caption
  | .addClass name => { caption with classes := caption.classes ++ [name] }
  | .value key value =>
    if key == "id".toList then { caption with identifier := value }
    else
      let value := if key == "hl_lines".toList then stressedLines value else value
      { caption with values := assign key value caption.values }

/-- The caption that an attribute list gives. Its first class is the language. -/
def Caption.ofEntries (entries : List AttributeList.Entry) : Caption :=
  let caption := entries.foldl Caption.add {}
  match caption.classes with
  | [] => caption
  | language :: classes => { caption with language := some language, classes := classes }

def Caption.ofFound (found : Pattern.Found) : Caption where
  language := (found.part? 3).filter (!·.isEmpty)
  values := match found.part? 5 with
    | some (c :: lines) => [("hl_lines".toList, stressedLines (c :: lines))]
    | _ => []

def writtenAttribute (name value : Text) : Text :=
  ' ' :: name ++ '=' :: '"' :: escapeValue value ++ ['"']

def unlessEmpty (name value : Text) : Text :=
  if value.isEmpty then [] else writtenAttribute name value

def written (attributeLists : Bool) (caption : Caption) (code : Text) : Text :=
  let language := match caption.language with
    | some language => writtenAttribute "class".toList ("language-".toList ++ language)
    | none => []
  let values := if attributeLists then
      caption.values.flatMap fun (key, value) => writtenAttribute key value
    else []
  "<pre".toList ++ unlessEmpty "id".toList caption.identifier ++
    unlessEmpty "class".toList (Text.join [' '] caption.classes) ++ "><code".toList ++
    language ++ values ++ '>' :: escapeFenced code ++ "</code></pre>".toList

/-- Sets the fenced code of a text aside. `passed` is the text already looked at; `budget` bounds
the number of fences. -/
def setAside (attributeLists : Bool) : Nat → Text → Text → Noting Text
  | 0, passed, s => return passed ++ s
  | budget + 1, passed, s => do
    match fenced.findAfter? passed.getLast? s with
    | none => return passed ++ s
    | some found =>
      let list := found.part 2
      let (entries, rest) := AttributeList.read list
      if !rest.isEmpty then
        let fence := found.part 1
        let opening := fence ++ (found.whole.drop fence.length).takeWhile (· = ' ')
        let skipped := opening.length + 1 + list.length
        setAside attributeLists budget (passed ++ found.before ++ found.whole.take skipped)
          (found.whole.drop skipped ++ found.after)
      else
        let caption := if list.isEmpty then .ofFound found else .ofEntries entries
        let mark ← keepHtml (.text (written attributeLists caption (found.part 6)))
        setAside attributeLists budget (passed ++ found.before ++ '\n' :: mark)
          ('\n' :: found.after)

def setAsideAll (features : Features) (s : Text) : Noting Text :=
  setAside features.attributeLists s.length [] s

end ContentFilters.Markdown.Fence

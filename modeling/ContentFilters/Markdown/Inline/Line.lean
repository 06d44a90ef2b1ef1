import ContentFilters.Markdown.Inline.Emphasis
import ContentFilters.Markdown.Inline.Link

/-!
# Reading lines

The rules for markup inside of lines are carried out one after the other on the whole text. What a
rule makes of an occurrence is read by the rules after it, and then set aside behind a mark. When
all rules have been carried out the marks are replaced by what was set aside. The tree of the
document is read from the top, of several branches the last one first; elements that come out of a
text are visited again with the children of their parent.
-/
namespace ContentFilters.Markdown.Inline

open Text (Pattern)

/-! ## Footnotes -/

def noteId (name : Text) : Text := "fn:".toList ++ name

/-- The identifier of a mention of a footnote; the first mention has no number. -/
def mentionId (number : Nat) (name : Text) : Text :=
  "fnref".toList ++ (if number ≤ 1 then [] else Mark.digits number) ++ ':' :: name

/-- The mention of a footnote. It shows the number of the footnote in the order of mentions. -/
def mention : Rule where
  pattern := .inOrder [.exactly "[^", .part 1 (.many (.noneOf "]")), .one (· = ']')]
  meaning := fun _ found => do
    let name := found.part 1
    if ((← get).footnotes.lookup name).isNone then return .rejected
    modify fun notes => { notes with mentions := name :: notes.mentions }
    let notes ← get
    let number := notes.mentioned.idxOf name + 1
    let link := (((Element.ofText "a" (Mark.digits number)).set "href" ('#' :: noteId name)).set
      "class" "footnote-ref".toList)
    let sup : Element := { tag := "sup", children := [link] }
    return .made (.element (sup.set "id" (mentionId (notes.mentionCount name) name))) found.after

/-! ## Rules -/

/-- The rules in the order in which they are carried out. -/
def rules (features : Features) : List Rule :=
  [code, escaped features] ++ (if features.footnotes then [mention] else []) ++
    [withNamedTarget linkStart false makeLink, withRoundTarget linkStart makeLink,
      withRoundTarget imageStart makeImage, withNamedTarget imageStart false makeImage,
      withNamedTarget linkStart true makeLink, withNamedTarget imageStart true makeImage,
      address, mail, lineBreak, html, reference, loneSigns, emphasis '*' starred,
      emphasis '_' underscored] ++
    (if features.lineBreaks then [everyLineBreak] else [])

structure Accepted where
  before : Text
  kept : Option Kept
  rest : Text

/-- The first occurrence that a rule accepts. `passed` is the text before. `budget` bounds the
occurrences. -/
def firstAccepted (rule : Rule) : Nat → Text → Text → Noting (Option Accepted)
  | 0, _, _ => return none
  | budget + 1, passed, s => do
    match rule.pattern.findAfter? passed.getLast? s with
    | none => return none
    | some found =>
      let before := passed ++ found.before
      match ← rule.meaning before.getLast? found with
      | .rejected => firstAccepted rule budget (before ++ found.whole) found.after
      | .passed rest => return some ⟨before, none, rest⟩
      | .made kept rest => return some ⟨before, some kept, rest⟩

/-- Carries out rules on a text. `passed` is the text before, which the first rule has been carried
out on. `budget` bounds the steps. -/
def readText : Nat → List Rule → Text → Text → Noting Text
  | 0, _, passed, s => return passed ++ s
  | _, [], passed, s => return passed ++ s
  | budget + 1, rule :: later, passed, s => do
    let read (rules : List Rule) (prose : Prose) : Noting Prose := do
      if prose.settled || prose.text.isEmpty then return prose
      let s ← readText budget rules [] prose.text
      return { text := s }
    let readElement (e : Element) : Noting Element := do
      if e.prose.settled then return e
      let prose ← read later e.prose
      let children ← e.children.mapM fun child => do
        return { child with
          prose := ← read later child.prose, tail := ← read (rule :: later) child.tail }
      return { e with prose := prose, children := children }
    match ← firstAccepted rule (s.length + 1) passed s with
    | none => readText budget later [] (passed ++ s)
    | some ⟨_, none, rest⟩ =>
      let whole := passed ++ s
      readText budget (rule :: later) (whole.take (whole.length - rest.length)) rest
    | some ⟨before, some kept, rest⟩ =>
      let kept ← match kept with
        | .element e => pure (Kept.element (← readElement e))
        | .text t => pure (Kept.text t)
      let mark ← keepPiece kept
      readText budget (rule :: later) [] (before ++ mark ++ rest)

/-! ## Putting pieces back -/

/-- Prose read by `read`, with the elements in it. Without a mark it is left as it is. -/
def inProse (read : Text → Passage) (prose : Prose) : Prose × List Element :=
  if !List.elem Mark.opening prose.text then (prose, [])
  else
    let passage := read prose.text
    ({ text := passage.lead }, passage.elements)

/-- An element whose text is read by `read`; the elements in it come before the children. -/
def inText (read : Text → Passage) (e : Element) : Element :=
  let (prose, elements) := inProse read e.prose
  { e with prose := prose, children := elements ++ e.children }

def inElement (read : Text → Passage) (e : Element) : Element :=
  let children := e.children.flatMap fun child =>
    let (tail, following) := inProse read child.tail
    { inText read child with tail := tail } :: following
  inText read { e with children := children }

/-- A passage with a text behind it, in which the marks of pieces are replaced by the pieces;
`inner` replaces the marks in them. `budget` bounds the marks. -/
def joinPieces (notes : Notes) (inner : Element → Element) : Nat → Text → Passage → Passage
  | 0, s, done => done.addText s
  | _, [], done => done
  | budget + 1, c :: rest, done =>
    match Mark.first? (c :: rest) with
    | some (.piece n, after) =>
      match notes.pieces[n]? with
      | some (.text t) => joinPieces notes inner budget after (done.addText t)
      | some (.element e) => joinPieces notes inner budget after (done.add (inner e))
      | none => joinPieces notes inner budget rest (done.addText [c])
    | _ =>
      let plain := rest.takeWhile (· != Mark.opening)
      joinPieces notes inner budget (rest.drop plain.length) (done.addText (c :: plain))

/-- A text with the marks of its pieces replaced by the pieces, in which marks are replaced too.
`budget` bounds the depth. -/
def withPieces (notes : Notes) : Nat → Text → Passage
  | 0, s => { lead := s }
  | budget + 1, s => joinPieces notes (inElement (withPieces notes budget)) s.length s {}

def readLine (features : Features) (s : Text) : Noting Passage := do
  let read ← readText (32 * (s.length + 1)) (rules features) [] s
  let notes ← get
  return withPieces notes (notes.pieces.size + 1) read

/-! ## The tree -/

/-- Reads the texts and tails of the children of an element, those that come out of a tail included.
Each child is given with the elements that come out of its text. `budget` bounds the children. -/
def visit (features : Features) : Nat → List Element → Noting (List (Element × List Element))
  | 0, children => return children.map fun child => (child, [])
  | _, [] => return []
  | budget + 1, child :: rest => do
    let read (prose : Prose) : Noting (Prose × List Element) := do
      if prose.settled || prose.text.isEmpty then return (prose, [])
      let passage ← readLine features prose.text
      return ({ text := passage.lead }, passage.elements)
    let (prose, inner) ← read child.prose
    let (tail, following) ← read child.tail
    let others ← visit features budget (following ++ rest)
    return ({ child with prose := prose, tail := tail }, inner) :: others

/-- Reads the children of visited elements, the last element first. -/
def visitInner (read : Element → Noting Element) :
    List (Element × List Element) → Noting (List Element)
  | [] => return []
  | (e, inner) :: rest => do
    let others ← visitInner read rest
    let e ←
      if e.children.isEmpty then do
        let inner ← inner.reverse.mapM read
        pure { e with children := inner.reverse }
      else read { e with children := inner ++ e.children }
    return e :: others

/-- Reads all that stands in an element. `budget` bounds the depth of the tree and the number of
children. -/
def readTree (features : Features) : Nat → Element → Noting Element
  | 0, e => return e
  | budget + 1, e => do
    let visited ← visit features budget e.children
    return { e with children := ← visitInner (readTree features budget) visited }

end ContentFilters.Markdown.Inline

import ContentFilters.Html.Fragment.Adoption

/-!
# Building the tree

What each token does to the tree. The rules depend on where the innermost open element stands: in
the body, or in one of the parts of a table. A token may close elements and change the rules, and is
then treated again under the new ones; every handler says whether it is.
-/
namespace ContentFilters.Html.Fragment

/-- The tree after a token, and whether the token is to be treated again. -/
abbrev Turn := Tree × Bool

namespace Tree

def done (t : Tree) : Turn := (t, false)

def again (t : Tree) : Turn := (t, true)

/-! ## In the body -/

/-- Blocks that end an open paragraph. -/
def plainBlockNames : List String :=
  ["address", "article", "aside", "blockquote", "center", "details", "dir", "div", "dl", "fieldset",
    "figcaption", "figure", "footer", "header", "hgroup", "main", "menu", "nav", "ol", "p",
    "section", "summary", "ul"]

/-- Blocks that an end tag closes with all that is open inside. -/
def closableBlockNames : List String :=
  ["address", "article", "aside", "blockquote", "button", "center", "details", "dialog", "dir",
    "div", "dl", "fieldset", "figcaption", "figure", "footer", "header", "hgroup", "listing",
    "main", "menu", "nav", "ol", "pre", "section", "summary", "ul"]

def formattingNames : List String :=
  ["b", "big", "code", "em", "font", "i", "s", "small", "strike", "strong", "tt", "u"]

/-- Elements without content that belong to the text around them. -/
def emptyInlineNames : List String := ["area", "br", "embed", "img", "input", "keygen", "wbr"]

/-- Elements without content that stand by themselves. -/
def emptyNames : List String :=
  ["base", "basefont", "bgsound", "command", "link", "meta", "param", "source", "track"]

/-- Parts of a table and other elements that the body does not hold. -/
def misplacedNames : List String :=
  ["body", "caption", "col", "colgroup", "frame", "frameset", "head", "html", "tbody", "td",
    "tfoot", "th", "thead", "tr"]

def closeParagraph (t : Tree) : Tree := (t.popImplied "p").popThrough "p"

/-- Closes the innermost paragraph if one is open. -/
def endParagraph (t : Tree) : Tree := if t.paragraphOpen then t.closeParagraph else t

/-- Whether the rules are those of a table, outside its cells. -/
def atTableLevel (t : Tree) : Bool :=
  match t.mode with
  | .table | .rowGroup | .row => true
  | _ => false

/-- Ends an element that another one ends. Inside a table this also ends the fostering. -/
def impliedEnd (t : Tree) (close : Tree → Tree) : Tree :=
  let t := close t
  if t.atTableLevel then { t with fosters := false } else t

/-- Closes a list item or one of the two parts of a definition. -/
def closeItem (t : Tree) (name : String) : Tree :=
  let scope := if name = "li" then "ol" :: "ul" :: scopeNames else scopeNames
  if t.inScope name scope then (t.popImplied name).popThrough name else t

def siblingItems (name : String) : List String := if name = "li" then ["li"] else ["dt", "dd"]

def itemToEnd? (t : Tree) (name : String) : Option String :=
  let found? := (t.opened.map t.nameAt).find? fun n =>
    (siblingItems name).contains n ||
      (specialNames.contains n && !(["address", "div", "p"].contains n))
  found?.filter (siblingItems name).contains

def openItem (t : Tree) (name : String) (attributes : Attributes) : Tree :=
  let t := match t.itemToEnd? name with
    | some item => t.impliedEnd (·.closeItem item)
    | none => t
  let t := if t.paragraphOpen then t.impliedEnd closeParagraph else t
  t.insert name attributes

/-- Opens a link. An open link ends before it. -/
def openLink (t : Tree) (attributes : Attributes) : Tree :=
  let t := match t.formatting? "a" with
    | none => t
    | some place =>
      let t := (t.closeFormatting "a" closingRounds).dropFormatting place
      { t with opened := t.opened.erase place }
  t.reopen.insertFormatting "a" attributes

def insertEmpty (t : Tree) (name : String) (attributes : Attributes) : Tree :=
  (t.insert name attributes).pop

def startInBody (t : Tree) (name : String) (attributes : Attributes) : Turn :=
  if plainBlockNames.contains name then done (t.endParagraph.insert name attributes)
  else if headingNames.contains name then
    let t := t.endParagraph
    let t := if headingNames.contains t.currentName then t.pop else t
    done (t.insert name attributes)
  else if name = "pre" || name = "listing" then
    done { t.endParagraph.insert name attributes with dropsLineEnd := true }
  else if name = "form" then
    if t.form.isSome then done t
    else
      let t := t.endParagraph.insert name attributes
      done { t with form := some t.current }
  else if name = "li" || name = "dd" || name = "dt" then done (t.openItem name attributes)
  else if name = "plaintext" then done (t.endParagraph.insert name attributes)
  else if name = "a" then done (t.openLink attributes)
  else if formattingNames.contains name then done (t.reopen.insertFormatting name attributes)
  else if name = "nobr" then
    let t := t.reopen
    let t := if t.inScope "nobr" then (t.closeFormatting "nobr" closingRounds).reopen else t
    done (t.insertFormatting name attributes)
  else if name = "button" then
    if t.inScope "button" then again ((t.popImplied "").popThrough "button")
    else done (t.reopen.insert name attributes)
  else if name = "applet" || name = "marquee" || name = "object" then
    let t := t.reopen.insert name attributes
    done { t with formatting := t.formatting ++ [.boundary] }
  else if name = "table" then
    done { t.endParagraph.insert name attributes with mode := .table }
  else if emptyInlineNames.contains name then done (t.reopen.insertEmpty name attributes)
  else if name = "image" then done (t.reopen.insertEmpty "img" attributes)
  else if name = "hr" then done (t.endParagraph.insertEmpty name attributes)
  else if emptyNames.contains name then done (t.insertEmpty name attributes)
  else if name = "option" || name = "optgroup" then
    let t := if t.currentName = "option" then t.pop else t
    done (t.reopen.insert name attributes)
  else if name = "rp" || name = "rt" then
    let t := if t.inScope "ruby" then t.popImplied "" else t
    done (t.insert name attributes)
  else if misplacedNames.contains name then done t
  else done (t.reopen.insert name attributes)

def endHeading (t : Tree) : Tree :=
  if headingNames.any (t.inScope ·) then ((t.popImplied "").popTo headingNames).pop else t

def endForm (t : Tree) : Tree :=
  match t.form with
  | none => t
  | some place =>
    let t := { t with form := none }
    if t.meets (· == place) scopeNames t.opened then
      let t := t.popImplied ""
      { t with opened := t.opened.erase place }
    else t

def endInBody (t : Tree) (name : String) : Tree :=
  if name = "p" then
    if t.paragraphOpen then t.closeParagraph else (t.insert "p" []).closeParagraph
  else if closableBlockNames.contains name then
    let t := if name = "pre" then { t with dropsLineEnd := false } else t
    if t.inScope name then (t.popImplied "").popThrough name else t
  else if name = "form" then t.endForm
  else if name = "li" || name = "dd" || name = "dt" then t.closeItem name
  else if headingNames.contains name then t.endHeading
  else if name = "a" || name = "nobr" || formattingNames.contains name then
    t.closeFormatting name closingRounds
  else if name = "applet" || name = "marquee" || name = "object" then
    if t.inScope name then ((t.popImplied "").popThrough name).dropToBoundary else t
  else if name = "br" then t.reopen.insertEmpty "br" []
  else if name = "body" || name = "html" then t
  else t.closeOther name

/-- Text in the body. Zero characters leave no trace. -/
def textInBody (t : Tree) (s : Text) : Tree :=
  if s = [Char.ofNat 0] then t else t.reopen.insertText s

def blankInBody (t : Tree) (s : Text) : Tree :=
  if t.dropsLineEnd then
    let e := t.element t.current
    let atStart := ["pre", "listing", "textarea"].contains e.name && e.children.isEmpty
    let s := if atStart && s.head? = some '\n' then s.drop 1 else s
    let t := { t with dropsLineEnd := false }
    if s.isEmpty then t else t.reopen.insertText s
  else t.reopen.insertText s

/-! ## In a table -/

/-- Treats a token by the rules of the body, with what a table may not hold put in front of it. -/
def fostering (t : Tree) (act : Tree → Tree) : Tree :=
  { act { t with fosters := true } with fosters := false }

/-- The rules for what is innermost now. -/
def modeFor (t : Tree) : List Nat → Mode
  | [] => .body
  | place :: rest =>
    if rest.isEmpty then .body
    else match t.nameAt place with
      | "td" | "th" => .cell
      | "tr" => .row
      | "tbody" | "thead" | "tfoot" => .rowGroup
      | "caption" => .caption
      | "colgroup" => .columns
      | "table" => .table
      | _ => modeFor t rest

def rowGroupNames : List String := ["tbody", "tfoot", "thead"]

/-- The parts of a table that are no rows or cells. -/
def tableSectionNames : List String := ["caption", "col", "colgroup", "tbody", "tfoot", "thead"]

def tablePieceNames : List String := ["td", "th", "tr"] ++ tableSectionNames

def closeTable (t : Tree) : Tree :=
  if t.inTableScope "table" then
    let t := (t.popImplied "").popThrough "table"
    { t with mode := t.modeFor t.opened }
  else t

def openPart (t : Tree) (name : String) (attributes : Attributes) (context : List String)
    (mode : Mode) : Tree :=
  { (t.popTo ("html" :: context)).insert name attributes with mode := mode }

def addBoundary (t : Tree) : Tree := { t with formatting := t.formatting ++ [.boundary] }

/-- Whether a start tag is a form field that is not shown. -/
def isHiddenInput (name : String) (attributes : Attributes) : Bool :=
  name == "input" && attributes.any fun (key, value) =>
    key == "type" && value.map Text.lowerAscii == "hidden".toList

def closeRowGroup (t : Tree) : Turn :=
  if rowGroupNames.any t.inTableScope then
    again { (t.popTo ("html" :: rowGroupNames)).pop with mode := .table }
  else done t

def closeRow (t : Tree) : Turn :=
  if t.inTableScope "tr" then again { (t.popTo ["html", "tr"]).pop with mode := .rowGroup }
  else done t

/-- A table inside a table ends what is innermost of the outer one. -/
def endForTable (t : Tree) : Tree :=
  match t.mode with
  | .rowGroup => t.closeRowGroup.1
  | .row => t.closeRow.1
  | _ => t.closeTable

/-- A start tag directly in a table. -/
def startInTable (t : Tree) (name : String) (attributes : Attributes) : Turn :=
  if name = "caption" then
    done { (t.popTo ["html", "table"]).addBoundary.insert name attributes with mode := .caption }
  else if name = "colgroup" then done (t.openPart name attributes ["table"] .columns)
  else if name = "col" then again (t.openPart "colgroup" [] ["table"] .columns)
  else if rowGroupNames.contains name then done (t.openPart name attributes ["table"] .rowGroup)
  else if ["td", "th", "tr"].contains name then again (t.openPart "tbody" [] ["table"] .rowGroup)
  else if name = "table" then done t.endForTable
  else if isHiddenInput name attributes then done (t.insertEmpty name attributes)
  else if name = "form" then
    if t.form.isSome then done t
    else
      let t := t.insert name attributes
      done { t.pop with form := some t.current }
  else done (t.fostering fun t => (t.startInBody name attributes).1)

def endInTable (t : Tree) (name : String) : Tree :=
  if name = "table" then t.closeTable
  else if name = "body" || name = "html" || tablePieceNames.contains name then t
  else t.fostering (·.endInBody name)

def closeCaption (t : Tree) : Tree :=
  if t.inTableScope "caption" then
    { ((t.popImplied "").popThrough "caption").dropToBoundary with mode := .table }
  else t

def closeColumns (t : Tree) : Turn :=
  if t.currentName = "html" then done t else again { t.pop with mode := .table }

def closeCellNamed (t : Tree) (name : String) : Tree :=
  if t.inTableScope name then
    { ((t.popImplied name).popThrough name).dropToBoundary with mode := .row }
  else t

def closeCell (t : Tree) : Turn :=
  if t.inTableScope "td" then again (t.closeCellNamed "td")
  else if t.inTableScope "th" then again (t.closeCellNamed "th")
  else done t

/-- The rules that hold again after text in a table. -/
def endTableText (t : Tree) (origin : Mode) : Tree :=
  let s := t.collected
  let t := { t with mode := origin, collected := [] }
  if s.all isBlank then t.insertText s else t.fostering (·.textInBody s)

/-! ## By mode -/

def start (t : Tree) (name : String) (attributes : Attributes) : Turn :=
  match t.mode with
  | .body => t.startInBody name attributes
  | .table => t.startInTable name attributes
  | .tableText origin => again (t.endTableText origin)
  | .caption =>
    if tablePieceNames.contains name then
      if t.inTableScope "caption" then again t.closeCaption else done t
    else t.startInBody name attributes
  | .columns =>
    if name = "col" then done (t.insertEmpty name attributes)
    else if name = "html" then done t
    else t.closeColumns
  | .rowGroup =>
    if name = "tr" then done (t.openPart name attributes rowGroupNames .row)
    else if name = "td" || name = "th" then again (t.openPart "tr" [] rowGroupNames .row)
    else if tableSectionNames.contains name then t.closeRowGroup
    else t.startInTable name attributes
  | .row =>
    if name = "td" || name = "th" then done (t.openPart name attributes ["tr"] .cell).addBoundary
    else if name = "tr" || tableSectionNames.contains name then t.closeRow
    else t.startInTable name attributes
  | .cell =>
    if tablePieceNames.contains name then t.closeCell else t.startInBody name attributes

def finish (t : Tree) (name : String) : Turn :=
  match t.mode with
  | .body => done (t.endInBody name)
  | .table => done (t.endInTable name)
  | .tableText origin => again (t.endTableText origin)
  | .caption =>
    if name = "caption" then done t.closeCaption
    else if name = "table" then
      if t.inTableScope "caption" then again t.closeCaption else done t
    else if name = "body" || name = "html" || tablePieceNames.contains name then done t
    else done (t.endInBody name)
  | .columns =>
    if name = "colgroup" then (t.closeColumns.1, false)
    else if name = "col" then done t
    else t.closeColumns
  | .rowGroup =>
    if rowGroupNames.contains name then
      if t.inTableScope name then
        done { (t.popTo ("html" :: rowGroupNames)).pop with mode := .table }
      else done t
    else if name = "table" then t.closeRowGroup
    else done (t.endInTable name)
  | .row =>
    if name = "tr" then (t.closeRow.1, false)
    else if name = "table" then t.closeRow
    else if rowGroupNames.contains name then
      if t.inTableScope name then (t.closeRow.1, true) else done t
    else done (t.endInTable name)
  | .cell =>
    if name = "td" || name = "th" then done (t.closeCellNamed name)
    else if ["table", "tbody", "tfoot", "thead", "tr"].contains name then
      if t.inTableScope name then (t.closeCell.1, true) else done t
    else if ["body", "html", "caption", "col", "colgroup"].contains name then done t
    else done (t.endInBody name)

/-- Text that is not blank. -/
def text (t : Tree) (s : Text) : Turn :=
  match t.mode with
  | .body | .caption | .cell => done (t.textInBody s)
  | .tableText _ =>
    if s = [Char.ofNat 0] then done t else done { t with collected := t.collected ++ s }
  | .columns => t.closeColumns
  | mode => again { t with mode := .tableText mode }

def blank (t : Tree) (s : Text) : Turn :=
  match t.mode with
  | .body => done (t.blankInBody s)
  | .caption | .cell | .columns => done (t.insertText s)
  | .tableText _ => done { t with collected := t.collected ++ s }
  | mode => again { t with mode := .tableText mode }

/-- An element whose content is text. -/
def raw (t : Tree) (name : String) (attributes : Attributes) (content : Text) : Turn :=
  let within (t : Tree) : Tree := ((t.insert name attributes).insertText content).pop
  match t.mode with
  | .tableText origin => again (t.endTableText origin)
  | .columns => t.closeColumns
  | .table | .rowGroup | .row =>
    done (if name = "script" || name = "style" then within t else t.fostering within)
  | _ => done (within (if name = "xmp" then t.endParagraph.reopen else t))

def turn (t : Tree) : Token → Turn
  | .text s => t.text s
  | .blank s => t.blank s
  | .startTag name attributes => t.start name attributes
  | .endTag name => t.finish name
  | .raw name attributes content => t.raw name attributes content
  | .comment =>
    match t.mode with
    | .tableText origin => again (t.endTableText origin)
    | _ => done t.insertComment

/-- Treats a token until it is dealt with; `rounds` bounds how often. -/
def take (token : Token) : Nat → Tree → Tree
  | 0, t => t
  | rounds + 1, t =>
    match t.turn token with
    | (t, true) => take token rounds t
    | (t, false) => t

/-- Adds a token to the tree. A token is treated again only after an element was closed or one of
the parts that a table implies was opened, which bounds the rounds. -/
def add (t : Tree) (token : Token) : Tree := t.take token (t.opened.length + 8)

def ofTokens (tokens : List Token) : Tree :=
  let t := tokens.foldl add {}
  match t.mode with
  | .tableText origin => t.endTableText origin
  | _ => t

end Tree

end ContentFilters.Html.Fragment

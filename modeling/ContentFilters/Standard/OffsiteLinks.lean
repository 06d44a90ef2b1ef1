import ContentFilters.Filter.Basic
import ContentFilters.Standard.Tools

/-!
# Links that leave the site

The post-process filter that marks links to other hosts: they get a target, a relation and a class.
A link counts if its address has one of the two schemes of the web and does not name the host of the
site. A text without any link is left exactly as it is; any other is read as a document and written
again.
-/
namespace ContentFilters.Standard.OffsiteLinks

open Html.Document (Node Attributes textOf? wordsOf setAttribute)

def data : Descriptor where
  moduleName := "textfilter.services.filters.filter_postprocess"
  qualifiedName := "ExternalLinks"
  typeName := "ExternalLinks"
  kind := .postProcess
  displayName := "External links"
  description := "Open off-site links in a new window with rel=noopener"
  defaults := .object [
    ("target", .object [("default", .str "_blank"),
      ("description", .str "Link target for external links")]),
    ("rel", .object [("default", .str "noopener noreferrer"),
      ("description", .str "rel attribute value")]),
    ("site_host", .object [("default", .str ""),
      ("description", .str "Host treated as internal")])]

structure Marking where
  target : Value
  relation : Value
  /-- The host of the site in lower case; empty if every host is another one. -/
  siteHost : Text

def markClass : Text := "external-link".toList

def webSchemes : List Text := ["http".toList, "https".toList]

def leavesSite (m : Marking) (address : Address) : Bool :=
  webSchemes.contains address.scheme &&
    !(!m.siteHost.isEmpty && address.host.map Text.lower == some m.siteHost)

/-- The attributes of a marked link. A class that is there already is not added again. -/
def markedAttributes (m : Marking) (attributes : Attributes) : Attributes :=
  let attributes := setAttribute "target".toList (.given m.target) attributes
  let attributes := setAttribute "rel".toList (.given m.relation) attributes
  let classes := wordsOf "class".toList attributes
  if classes.contains markClass then attributes
  else setAttribute "class".toList (.words (classes ++ [markClass])) attributes

section Marking

/-! What is marked depends on how addresses are split, which is a parameter here. -/

variable (split : Text → Except AddressError Address) (m : Marking)

/-- The attributes of a link, marked if its address leaves the site. -/
def linkAttributes (attributes : Attributes) : Except FilterError Attributes :=
  match textOf? "href".toList attributes with
  | none => .ok attributes
  | some address =>
    match split address with
    | .error e => .error (.address e)
    | .ok parts => .ok (if leavesSite m parts then markedAttributes m attributes else attributes)

mutual

def markNode : Node → Except FilterError Node
  | .element name attributes children => do
    let attributes ←
      if name = ['a'] then linkAttributes split m attributes else pure attributes
    return .element name attributes (← markNodes children)
  | node => .ok node

/-- Marks the links in nodes, the first one first. -/
def markNodes : List Node → Except FilterError (List Node)
  | [] => .ok []
  | node :: rest => do
    let node ← markNode node
    return node :: (← markNodes rest)

end

end Marking

def mark (tools : Tools) (m : Marking) (text : Text) : Except FilterError Text := do
  let nodes ← tools.readDocument text
  tools.writeDocument (← markNodes tools.splitAddress m nodes)

def marking (params : Option FilterParams) : Except FilterError Marking := do
  let target ← data.optionValue params "target"
  let relation ← data.optionValue params "rel"
  let siteHost ← data.optionValue params "site_host"
  return { target := target, relation := relation, siteHost := Text.lower siteHost.display }

/-- Marks the links in a text if it can hold any. -/
def transform (tools : Tools) (text : Text) (params : Option FilterParams) :
    Except FilterError Text :=
  if Text.occursIn ['<', 'a'] text then do mark tools (← marking params) text
  else .ok text

def filter (tools : Tools) : Filter where
  data := data
  behavior := .transform fun text params => Action.ofExcept (transform tools text params)

end ContentFilters.Standard.OffsiteLinks

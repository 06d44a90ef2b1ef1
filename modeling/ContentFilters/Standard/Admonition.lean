import ContentFilters.Standard.CodeBlock

/-!
# Admonitions

The tag filter that highlights its body as a note, a tip, a warning or a danger. It runs after
markup, so the body is put into the result as it is. An unknown type is reported to the journal and
taken as a note.
-/
namespace ContentFilters.Standard.Admonition

def data : Descriptor where
  moduleName := "textfilter.services.filters.macro_note"
  qualifiedName := "Note"
  typeName := "Note"
  kind := .postMarkup
  displayName := "Note"
  description := "Highlight a passage as a note, tip, warning or danger"
  defaults := .object [
    ("type", .object [("default", .str "note"),
      ("description", .str "Admonition type when the tag names none")])]

inductive Kind where
  | note | tip | warning | danger
  deriving DecidableEq, Repr

def Kind.all : List Kind := [.note, .tip, .warning, .danger]

/-- The written name of a type, which is also its class. -/
def Kind.name : Kind → String
  | note => "note"
  | tip => "tip"
  | warning => "warning"
  | danger => "danger"

def Kind.label : Kind → String
  | note => "Note"
  | tip => "Tip"
  | warning => "Warning"
  | danger => "Danger"

def Kind.ofName? (s : Text) : Option Kind := Kind.all.find? fun k => k.name.toList == s

def render (kind : Kind) (title body : Text) : Text :=
  "<span class=\"admonition admonition-".toList ++ kind.name.toList ++
    "\"><strong class=\"admonition-title\">".toList ++ Html.escape title ++
    ":</strong> ".toList ++ body ++ "</span>".toList

def unknownMessage (name : Text) : String :=
  "Unknown note type " ++ String.ofList (Text.quoted name) ++ ", using 'note'"

/-- The type that a tag asks for, in lower case. -/
def kindName (attributes : Tag.Attributes) (params : Option FilterParams) :
    Except FilterError Text :=
  (CodeBlock.attributeOr attributes "type" (data.optionValue params "type")).map Text.lower

def replacement (attributes : Tag.Attributes) (body : Text) (params : Option FilterParams) :
    Action Text := do
  let name ← Action.ofExcept (kindName attributes params)
  let kind ← match Kind.ofName? name with
    | some kind => pure kind
    | none => do
      Action.report .warning data.moduleName (unknownMessage name)
      pure .note
  let title := match (Tag.Attributes.get? "title".toList attributes).filter (!·.isEmpty) with
    | some title => title
    | none => kind.label.toList
  return render kind title body

def filter : Filter where
  data := data
  behavior := .expand replacement

end ContentFilters.Standard.Admonition

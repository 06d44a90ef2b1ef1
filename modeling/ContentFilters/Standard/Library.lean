import ContentFilters.Standard.Admonition
import ContentFilters.Standard.Cleaning
import ContentFilters.Standard.Markup
import ContentFilters.Standard.OffsiteLinks

/-!
# The standard filters

The filters that every deployment has, in the order in which they are registered: the two stages of
tag expansion, the markup filters, the tag filters, and the post-process filters.
-/
namespace ContentFilters.Standard

def stageData (stage : TagStage) : Descriptor :=
  let name := match stage with
    | .preMarkup => "MacroPre"
    | .postMarkup => "MacroPost"
  let place := match stage with
    | .preMarkup => "pre-markup"
    | .postMarkup => "post-markup"
  { moduleName := "textfilter.services.filters.stages"
    qualifiedName := name
    typeName := name
    displayName := name
    description := "Macro expansion meta-filter (" ++ place ++ ")" }

def stage (stage : TagStage) : Filter where
  data := stageData stage
  behavior := .stage stage

variable (tools : Tools)

def filters : List Filter :=
  [stage .preMarkup, stage .postMarkup, Markup.markdown tools, Markup.plain, CodeBlock.filter,
    Admonition.filter, Cleaning.filter tools none, OffsiteLinks.filter tools]

/-- The standard filters, newly built: their serial numbers start at `serial`. -/
def build (serial : Nat) : List Filter :=
  (filters tools).mapIdx fun i f => { f with serial := serial + i }

/-- The standard filter with a name. A policy given to a filter that never cleans is of no use. -/
def named? (name : String) (policy : Option Html.Policy) : Option Filter :=
  match name with
  | "code" => some CodeBlock.filter
  | "note" => some Admonition.filter
  | "markdown" => some (Markup.markdown tools)
  | "plain" => some Markup.plain
  | "sanitize" => some (Cleaning.filter tools policy)
  | "externallinks" => some (OffsiteLinks.filter tools)
  | _ => none

end ContentFilters.Standard

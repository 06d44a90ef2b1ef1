import ContentFilters.Filter.Basic
import ContentFilters.Standard.Tools

/-!
# Cleaning

The post-process filter that cleans a text by a policy: one that was given to the filter, or else
the policy that all filters of a session share. Other filters may clean in the same way.
-/
namespace ContentFilters.Standard.Cleaning

def data : Descriptor where
  moduleName := "textfilter.services.filters.filter_postprocess"
  qualifiedName := "Sanitize"
  typeName := "Sanitize"
  kind := .postProcess
  displayName := "Sanitize"
  description := "Strip markup that is not on the HTML allow-list"

variable (tools : Tools)

/-- Cleans a text by a policy. An empty text is clean. -/
def cleanBy (policy : Html.Policy) (text : Text) : Except FilterError Text :=
  if text.isEmpty then .ok text else tools.cleanHtml policy text

/-- Cleans a text by a given policy, or by the shared one, with some parts of it overridden. -/
def cleanWith (given : Option Html.Policy) (overrides : Html.Policy.Overrides) (text : Text) :
    Action Text := do
  let policy ← match given with
    | some policy => pure policy
    | none => Action.sharedPolicy
  Action.ofExcept (cleanBy tools (policy.override overrides) text)

def filter (given : Option Html.Policy) : Filter where
  data := data
  behavior := .transform fun text _ => cleanWith tools given {} text

end ContentFilters.Standard.Cleaning

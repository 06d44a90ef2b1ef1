import ContentFilters.Filter.Params

/-!
# Descriptions of filters

The record that a help page shows for a filter, checked like supplied parameters.
-/
namespace ContentFilters

structure FilterInfo where
  shortName : String
  kind : String
  displayName : String
  description : String
  helpText : String := ""
  defaults : List (String × List (String × Value)) := []
  expandsTags : Bool := false

namespace FilterInfo

def required {α : Type} (fields : List (String × Value)) (name : String)
    (check : List String → Value → Checked α) : Checked α :=
  match Value.field? name fields with
  | none => Checked.fault [name] .missing
  | some v => check [name] v

/-- Checks a supplied record; fields that are not known are ignored. -/
def check : Value → Checked FilterInfo
  | .object fields =>
    let checked :=
      (required fields "short_name" Checked.string).both <|
      (required fields "filter_type" Checked.string).both <|
      (required fields "display_name" Checked.string).both <|
      (required fields "description" Checked.string).both <|
      (FilterParams.optional fields "help_text" "" Checked.string).both <|
      (FilterParams.optional fields "default_config" []
        (Checked.objectOf Checked.object)).both <|
      FilterParams.optional fields "is_macro" false Checked.truthValue
    checked.map fun (shortName, kind, displayName, description, helpText, defaults, expandsTags) =>
      { shortName, kind, displayName, description, helpText, defaults, expandsTags }
  | _ => Checked.fault [] .notRecord

end FilterInfo

end ContentFilters

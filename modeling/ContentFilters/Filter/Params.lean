import ContentFilters.Config.Fault
import ContentFilters.Text.LowerCase

/-!
# Filter parameters

One stored setup of the pipeline: the markup filter, the post-process filters after it, and values
for options. Names of filters are stored trimmed and in lower case, and blank entries are dropped,
so a stored record can be looked up as it is.
-/
namespace ContentFilters

structure FilterParams where
  name : String := "default"
  markup : String := "markdown"
  filters : List String := []
  options : List (String × Value) := []

namespace FilterParams

/-- The stored form of a filter's name. -/
def normalName (s : String) : String := String.ofList (Text.lower (Text.trim s.toList))

def normalFilters (names : List String) : List String :=
  (names.filter fun s => !Text.allBlank s.toList).map normalName

/-- Checks a field of a record, which has a default if it is not given. -/
def optional {α : Type} (fields : List (String × Value)) (name : String) (fallback : α)
    (check : List String → Value → Checked α) : Checked α :=
  match Value.field? name fields with
  | none => .ok fallback
  | some v => check [name] v

/-- Checks a supplied record; fields that are not known are ignored. -/
def check : Value → Checked FilterParams
  | .object fields =>
    let base : FilterParams := {}
    let checked :=
      (optional fields "name" base.name Checked.string).both <|
      (optional fields "markup" base.markup fun path v =>
          (Checked.string path v).map normalName).both <|
      (optional fields "filters" base.filters fun path v =>
          (Checked.stringList path v).map normalFilters).both <|
      optional fields "filter_params" base.options Checked.object
    checked.map fun (name, markup, filters, options) =>
      { name := name, markup := markup, filters := filters, options := options }
  | _ => Checked.fault [] .notRecord

/-- The stored record, to be checked again. -/
def toValue (p : FilterParams) : Value :=
  .object [("name", .str p.name), ("markup", .str p.markup),
    ("filters", .list (p.filters.map .str)), ("filter_params", .object p.options)]

end FilterParams

end ContentFilters

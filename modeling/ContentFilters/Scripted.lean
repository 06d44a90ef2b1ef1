import ContentFilters.Filter.Basic
import ContentFilters.Standard.Cleaning
import ContentFilters.Value.Display

/-!
# Scripted filters

Filters whose operation is given as data: what a tag is replaced by, or what is done to a text. They
serve to try out a registry or a pipeline without writing a filter.
-/
namespace ContentFilters.Scripted

inductive TagScript where
  | constant (text : Text)
  /-- The body between two texts. -/
  | wrap (before after : Text)
  /-- The value of an attribute. -/
  | attributeValue (key : Text)
  /-- The attributes in the order of their keys, and the body. -/
  | listing
  /-- The value of an option. -/
  | option (name : String)
  | fail (message : String)
  /-- Something that is no text. -/
  | noText

inductive TextScript where
  | append (text : Text)
  | replace (pattern substitute : Text)
  | clean (overrides : Html.Policy.Overrides)
  /-- Adds the value of an option in brackets. -/
  | option (name : String)
  | fail (message : String)

def listingText (attributes : Tag.Attributes) (body : Text) : Text :=
  let sorted := attributes.mergeSort fun a b => Text.precedes a.1 b.1
  let entries := sorted.map fun (key, value) => key ++ '=' :: value
  '\x7b' :: Text.join [','] entries ++ '|' :: body ++ ['\x7d']

def TagScript.run (d : Descriptor) : TagScript → TagFunction
  | constant text, _, _, _ => pure text
  | wrap before after, _, body, _ => pure (before ++ body ++ after)
  | attributeValue key, attributes, _, _ =>
    match Tag.Attributes.get? key attributes with
    | some value => pure value
    | none => throw (.missingAttribute key)
  | listing, attributes, body, _ => pure (listingText attributes body)
  | option name, _, _, params =>
    Action.ofExcept ((d.optionValue params name).map Value.display)
  | fail message, _, _, _ => throw (.raised message)
  | noText, _, _, _ => throw .notText

def TextScript.run (tools : Standard.Tools) (d : Descriptor) (policy : Option Html.Policy) :
    TextScript → Text → Option FilterParams → Action Text
  | append added, text, _ => pure (text ++ added)
  | replace pattern substitute, text, _ => pure (Text.replaceAll pattern substitute text)
  | clean overrides, text, _ => Standard.Cleaning.cleanWith tools policy overrides text
  | option name, text, params => do
    let value ← Action.ofExcept (d.optionValue params name)
    return text ++ '[' :: value.display ++ [']']
  | fail message, _, _ => throw (.raised message)

structure Definition where
  data : Descriptor
  /-- Whether the filter replaces tags unless a text script is given. -/
  replacesTags : Bool := false
  tagScript : Option TagScript := none
  textScript : Option TextScript := none
  policy : Option Html.Policy := none

def Definition.behavior (tools : Standard.Tools) (d : Definition) : Behavior :=
  match d.textScript with
  | some script => .transform (script.run tools d.data d.policy)
  | none =>
    if d.replacesTags then
      match d.tagScript with
      | some script => .expand (script.run d.data)
      | none => .expand fun _ _ _ => throw (.unimplemented d.data.typeName "macrofilter")
    else .undefined

def Definition.filter (tools : Standard.Tools) (d : Definition) : Filter where
  data := d.data
  behavior := d.behavior tools

end ContentFilters.Scripted

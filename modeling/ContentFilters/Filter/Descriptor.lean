import ContentFilters.Filter.Error
import ContentFilters.Filter.Kind
import ContentFilters.Filter.Params

/-!
# What is known of a filter

The declared data of a filter, the names derived from its identity, and the value of its options.

The short name is the last word of the dotted identity in lower case, where a word is a run of ASCII
letters; one line feed after it is overlooked. An identity that does not end in a point and a word
gives no name at all.
-/
namespace ContentFilters

structure Descriptor where
  moduleName : String
  /-- The name of the filter's type within its module, with the types around it. -/
  qualifiedName : String
  /-- The name of the filter's type alone. -/
  typeName : String
  kind : FilterKind := .other
  displayName : String := "Unknown Text Filter"
  description : String := "Unknown Text Filter Description"
  reloadable : Bool := false
  helpText : String := ""
  /-- The options with their defaults: an object of objects, each with a field `default`. -/
  defaults : Value := .object []

namespace Descriptor

/-- The full dotted name of a filter's type. -/
def identity (d : Descriptor) : String := d.moduleName ++ "." ++ d.qualifiedName

def dropLineFeed (s : Text) : Text :=
  if s.getLast? = some '\n' then s.dropLast else s

/-- The word of letters that ends a dotted identity. -/
def lastWord? (identity : Text) : Option Text := do
  let (_, word) ← Text.cutAtLast? '.' (dropLineFeed identity)
  if !word.isEmpty && word.all Text.isLetter then some word else none

/-- The last word of the identity, in lower case. -/
def shortName? (d : Descriptor) : Option String :=
  (lastWord? d.identity.toList).map fun w => String.ofList (w.map Text.lowerAscii)

/-- The key under which a filter is registered, which is also the name of its inline tag. -/
def shortName (d : Descriptor) : Except FilterError String :=
  match d.shortName? with
  | some name => .ok name
  | none => .error (.unnamed d.identity)

def componentName (d : Descriptor) : Except FilterError String :=
  d.shortName.map ("plugins/textfilters/" ++ ·)

/-- How a filter is shown in messages. -/
def shown (d : Descriptor) : String := "<" ++ d.typeName ++ " " ++ d.kind.name ++ ">"

def defaultValue (d : Descriptor) (option : String) : Except FilterError (Option Value) :=
  match d.defaults with
  | .object options =>
    match Value.field? option options with
    | none => .ok none
    | some (.object entry) => .ok (Value.field? "default" entry)
    | some _ => .error .malformedDefaults
  | _ => .error .malformedDefaults

/-- The value of an option: the supplied one if it is truthy, else the declared default. -/
def optionValue (d : Descriptor) (params : Option FilterParams) (option : String) :
    Except FilterError Value :=
  match (params.bind fun p => Value.field? option p.options).filter Value.truthy with
  | some supplied => .ok supplied
  | none => do
    match ← d.defaultValue option with
    | some v => return v
    | none => throw (.missingOption (← d.shortName) option)

end Descriptor

end ContentFilters

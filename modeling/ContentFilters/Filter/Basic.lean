import ContentFilters.Filter.Action

/-!
# Filters

A filter is its declared data together with what it does to a text. Most filters transform the text
by themselves; a tag filter only says how one tag is replaced, and the tags are found for it; a
stage runs the registered tag filters of one kind. A filter may also lack its operation.

Filters that were built apart have different serial numbers, so that registering one filter again
can be told from replacing it by an equal one.
-/
namespace ContentFilters

/-- How a tag filter replaces a tag. -/
abbrev TagFunction := Tag.Attributes → Text → Option FilterParams → Action Text

inductive Behavior where
  /-- Nothing is defined. -/
  | undefined
  | transform (run : Text → Option FilterParams → Action Text)
  /-- Replaces inline tags with the filter's name. -/
  | expand (replace : TagFunction)
  /-- Runs the registered tag filters of a stage. -/
  | stage (stage : TagStage)

structure Filter where
  data : Descriptor
  behavior : Behavior
  serial : Nat := 0

namespace Filter

/-- The kind of a filter. A stage is not itself a tag filter, whatever it runs. -/
def kind (f : Filter) : FilterKind :=
  match f.behavior with
  | .stage _ => .other
  | _ => f.data.kind

def shortName (f : Filter) : Except FilterError String := f.data.shortName

def shown (f : Filter) : String := { f.data with kind := f.kind }.shown

def optionValue (f : Filter) (params : Option FilterParams) (option : String) :
    Except FilterError Value :=
  f.data.optionValue params option

def expandTags (f : Filter) (replace : TagFunction) (text : Text)
    (params : Option FilterParams) : Action Text := do
  let settings ← Action.settings
  let name ← Action.ofExcept f.shortName
  let replaceAndNote : Tag.Replacement Action := fun attributes body => do
    Action.noteCall ⟨attributes, body, params.isSome⟩
    replace attributes body params
  Tag.expand ⟨settings.tagNamespace.toList, name.toList⟩ settings.maxAttributesLength
    replaceAndNote text

/-- Runs a filter on a text. A stage has tags expanded by the filters given for it. -/
def run (f : Filter) (tagFilters : TagStage → Text → Option FilterParams → Action Text)
    (text : Text) (params : Option FilterParams) : Action Text :=
  match f.behavior with
  | .undefined => throw (.unimplemented f.data.typeName "filtertext")
  | .transform run => run text params
  | .expand replace => f.expandTags replace text params
  | .stage stage => tagFilters stage text params

theorem not_stage_of_expandsTags {f : Filter} (h : f.kind.expandsTags = true) (s : TagStage) :
    f.behavior ≠ .stage s := by
  intro hs
  simp [kind, hs, FilterKind.expandsTags] at h

end Filter

end ContentFilters

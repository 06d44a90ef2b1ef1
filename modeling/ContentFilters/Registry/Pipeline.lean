import ContentFilters.Registry.Basic

/-!
# The pipeline

Runs a text through the filters that a record of parameters asks for: the tag filters before markup,
the markup filter, the tag filters after it, and the post-process filters. Every step is looked up
by its name when the chain is built. A markup filter that is not registered is an error; any other
name that is not registered is reported and left out.
-/
namespace ContentFilters

namespace Registry

/-- Runs the tag filters of a stage, each on what the one before gave. -/
def runStage (r : Registry) (stage : TagStage) (text : Text) (params : Option FilterParams) :
    Action Text :=
  (r.byKind stage.kind).foldlM (fun text f => f.run (fun _ text _ => pure text) text params) text

/-- Runs a filter over this registry. -/
def run (r : Registry) (f : Filter) (text : Text) (params : Option FilterParams) : Action Text :=
  f.run r.runStage text params

end Registry

namespace Pipeline

def loggerName : String := "textfilter.services.renderer"

def stageName (stage : TagStage) : String := stage.kind.name

def chainNames (params : FilterParams) : List String :=
  stageName .preMarkup :: params.markup :: stageName .postMarkup :: params.filters

def skipMessage (name setup : String) : String :=
  "Skipping unknown text filter " ++ Text.quotedString name ++ " in " ++ Text.quotedString setup

def resolve (r : Registry) (params : FilterParams) : List String → Action (List Filter)
  | [] => pure []
  | name :: rest =>
    match r.lookup name with
    | some f => return f :: (← resolve r params rest)
    | none => do
      if name = params.markup then throw (.notRegistered name)
      Action.report .warning loggerName (skipMessage name params.name)
      resolve r params rest

def filterChain (r : Registry) (params : FilterParams) : Action (List Filter) :=
  resolve r params (chainNames params)

/-- Runs a text through the pipeline. Without parameters the configured markup filter is used. An
empty text gives an empty text, whatever is registered. -/
def render (r : Registry) (text : Text) (params : Option FilterParams) : Action Text := do
  if text.isEmpty then return []
  let params ← match params with
    | some params => pure params
    | none => do
      let settings ← Action.settings
      pure { markup := FilterParams.normalName settings.defaultMarkup }
  let chain ← filterChain r params
  chain.foldlM (fun text f => r.run f text (some params)) text

end Pipeline

end ContentFilters

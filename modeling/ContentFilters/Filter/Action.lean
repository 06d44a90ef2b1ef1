import ContentFilters.Filter.Descriptor
import ContentFilters.Html.Policy
import ContentFilters.Tag.Expansion

/-!
# What filters do

A filter runs in a session: it can read the settings, write to the journal, and share one cleaning
policy with the other filters of the session. Running may fail; what was written before a failure
stays written. The session also keeps the list of tag replacements that were asked for, so that a
run can be told apart from another one with the same result.
-/
namespace ContentFilters

structure TagCall where
  attributes : Tag.Attributes
  body : Text
  /-- Whether parameters were passed along. -/
  hasParams : Bool
  deriving DecidableEq, Repr

structure Session where
  /-- The settings, or why they cannot be read. -/
  settings : Except SettingsError Settings
  records : List Journal.Record := []
  calls : List TagCall := []
  /-- The policy that was built from the settings, once one was needed. -/
  sharedPolicy : Option Html.Policy := none

abbrev Action := EStateM FilterError Session

namespace Action

def settings : Action Settings := do
  match (← get).settings with
  | .ok s => return s
  | .error e => throw (.settings e)

def report (level : Journal.Level) (logger message : String) : Action Unit :=
  modify fun s => { s with records := s.records ++ [⟨level, logger, message⟩] }

def noteCall (call : TagCall) : Action Unit :=
  modify fun s => { s with calls := s.calls ++ [call] }

def ofExcept {α : Type} : Except FilterError α → Action α
  | .ok a => pure a
  | .error e => throw e

/-- The policy that the filters of the session share, built when it is first needed. -/
def sharedPolicy : Action Html.Policy := do
  match (← get).sharedPolicy with
  | some policy => return policy
  | none =>
    report .debug "textfilter.services.sanitizer" "Building default HTML sanitizer"
    let policy := Html.Policy.ofSettings (← settings)
    modify fun s => { s with sharedPolicy := some policy }
    return policy

end Action

end ContentFilters

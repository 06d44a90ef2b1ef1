import ContentFilters.Config.Settings

/-!
# Cleaning policies

Which tags, attributes and address protocols a cleaned fragment may hold, and whether other tags are
dropped or shown escaped. A policy comes from the settings, part by part overridden by the caller.
-/
namespace ContentFilters.Html

inductive AttributeRule where
  /-- For each tag its attributes; the entry `*` holds those allowed on every tag. -/
  | perTag (entries : List (String × List String))
  /-- The same attributes on every tag. -/
  | everywhere (names : List String)
  deriving DecidableEq, Repr

def AttributeRule.allows (rule : AttributeRule) (tag name : String) : Bool :=
  match rule with
  | perTag entries =>
    let listed (key : String) : Bool :=
      match entries.find? (·.1 == key) with
      | some (_, names) => names.contains name
      | none => false
    listed tag || listed "*"
  | everywhere names => names.contains name

structure Policy where
  tags : List String
  attributes : AttributeRule
  protocols : List String
  /-- Whether tags that are not allowed are dropped instead of shown escaped. -/
  strip : Bool
  deriving DecidableEq, Repr

structure Policy.Overrides where
  tags : Option (List String) := none
  attributes : Option AttributeRule := none
  protocols : Option (List String) := none
  strip : Option Bool := none
  deriving DecidableEq, Repr

namespace Policy

def ofSettings (s : Settings) : Policy :=
  { tags := s.allowedTags
    attributes := .perTag s.allowedAttributes
    protocols := s.allowedProtocols
    strip := s.stripDisallowed }

def override (p : Policy) (o : Overrides) : Policy :=
  { tags := o.tags.getD p.tags
    attributes := o.attributes.getD p.attributes
    protocols := o.protocols.getD p.protocols
    strip := o.strip.getD p.strip }

end Policy

end ContentFilters.Html

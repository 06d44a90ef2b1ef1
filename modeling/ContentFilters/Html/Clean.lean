import ContentFilters.Html.Fragment.Scan
import ContentFilters.Html.Fragment.Write

/-!
# Cleaning fragments

A fragment is cleaned by reading it as a browser would, keeping what a policy allows, and writing
the result. The written fragment has an end for everything that begins, so what follows it in a
document is not affected.
-/
namespace ContentFilters.Html

def Policy.limits (policy : Policy) : Fragment.Limits where
  tags := policy.tags.map Text.lowerString
  strip := policy.strip

/-- Cleans a fragment. An empty fragment is clean. -/
def clean (policy : Policy) (s : Text) : Text :=
  if s.isEmpty then s
  else Fragment.write policy (Fragment.Tree.ofTokens (Fragment.tokens policy.limits s))

end ContentFilters.Html

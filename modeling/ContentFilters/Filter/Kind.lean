/-!
# Kinds of filters

The five buckets that filters are sorted into. Two of them hold the filters that expand inline tags,
one before and one after the markup filter.
-/
namespace ContentFilters

inductive FilterKind where
  /-- Expands inline tags before markup. -/
  | preMarkup
  /-- Expands inline tags after markup. -/
  | postMarkup
  | markup
  | postProcess
  | other
  deriving DecidableEq, Repr

namespace FilterKind

def all : List FilterKind := [preMarkup, postMarkup, markup, postProcess, other]

/-- The name by which a kind is configured. -/
def name : FilterKind → String
  | preMarkup => "macropre"
  | postMarkup => "macropost"
  | markup => "markup"
  | postProcess => "postprocess"
  | other => "other"

/-- The constant by which a kind is documented. -/
def label : FilterKind → String
  | preMarkup => "MACRO_PRE"
  | postMarkup => "MACRO_POST"
  | markup => "MARKUP"
  | postProcess => "POST_PROCESS"
  | other => "OTHER"

def ofName? (s : String) : Option FilterKind := all.find? (·.name == s)

def expandsTags : FilterKind → Bool
  | preMarkup | postMarkup => true
  | _ => false

theorem mem_all (k : FilterKind) : k ∈ all := by cases k <;> decide

theorem ofName?_name (k : FilterKind) : ofName? k.name = some k := by cases k <;> decide

end FilterKind

/-- The two passes of tag expansion, around the markup filter. -/
inductive TagStage where
  | preMarkup
  | postMarkup
  deriving DecidableEq, Repr

def TagStage.kind : TagStage → FilterKind
  | preMarkup => .preMarkup
  | postMarkup => .postMarkup

theorem TagStage.expandsTags_kind (s : TagStage) : s.kind.expandsTags = true := by
  cases s <;> rfl

end ContentFilters

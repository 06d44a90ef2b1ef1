import ContentFilters.Filter.Basic
import ContentFilters.Filter.Info

/-!
# The registry of filters

Filters are kept under their short names, in the order in which each name was first registered, and
sorted into buckets by kind. Registering a name again replaces the filter in its place. A filter
without a short name is refused before anything changes.

The buckets are a snapshot that every registration makes anew; stages and listings read only them.
-/
namespace ContentFilters

structure Registry where
  entries : List (String × Filter) := []
  buckets : FilterKind → List Filter := fun _ => []

namespace Registry

def loggerName : String := "textfilter.services.filters.registry"

/-- Puts a filter under a name: in place if the name is there, else at the end. -/
def put (name : String) (f : Filter) : List (String × Filter) → List (String × Filter)
  | [] => [(name, f)]
  | (key, old) :: rest => if key = name then (key, f) :: rest else (key, old) :: put name f rest

def entry? (name : String) : List (String × Filter) → Option Filter
  | [] => none
  | (key, f) :: rest => if key = name then some f else entry? name rest

/-- Sorts filters into buckets, keeping their order. -/
def sortByKind (filters : List Filter) : FilterKind → List Filter :=
  filters.foldl (fun buckets f k => if k = f.kind then buckets k ++ [f] else buckets k) fun _ => []

def lookup (r : Registry) (name : String) : Option Filter := entry? name r.entries

def require (r : Registry) (name : String) : Except FilterError Filter :=
  match r.lookup name with
  | some f => .ok f
  | none => .error (.notRegistered name)

def contains (r : Registry) (name : String) : Bool := r.entries.any (·.1 == name)

def size (r : Registry) : Nat := r.entries.length

def all (r : Registry) : List Filter := r.entries.map (·.2)

def message (replaced : Option Filter) (name : String) (f : Filter) : String :=
  match replaced with
  | some old =>
    if old.serial = f.serial then registered
    else "Replaced text filter: " ++ name ++ " (" ++ old.shown ++ " -> " ++ f.shown ++ ")"
  | none => registered
where
  /-- The message about a name that gets no other filter. -/
  registered : String := "Registered text filter: " ++ name ++ " (" ++ f.kind.name ++ ")"

/-- Registers a filter; the second part is the record of the registration. -/
def register (r : Registry) (f : Filter) : Except FilterError (Registry × Journal.Record) := do
  let name ← f.shortName
  let entries := put name f r.entries
  return ({ entries := entries, buckets := sortByKind (entries.map (·.2)) },
    ⟨.debug, loggerName, message (r.lookup name) name f⟩)

/-- Registers filters in turn. A filter that is refused changes nothing. -/
def registerAll (r : Registry) (filters : List Filter) : Registry × List Journal.Record :=
  filters.foldl (fun (r, records) f =>
    match r.register f with
    | .ok (r, record) => (r, records ++ [record])
    | .error _ => (r, records)) (r, [])

def byKind (r : Registry) (k : FilterKind) : List Filter := r.buckets k

def byKindNamed (r : Registry) (v : Value) : Except FilterError (List Filter) :=
  (FilterKind.read v).map r.byKind

def kinds (r : Registry) : List (FilterKind × List Filter) :=
  FilterKind.all.map fun k => (k, r.byKind k)

def tagFilters (r : Registry) : List Filter := r.all.filter (·.kind.expandsTags)

/-- The registered names in increasing order. -/
def names (r : Registry) : List String :=
  (r.entries.map (·.1)).mergeSort fun a b => decide (a ≤ b)

def infoRecord (entry : String × Filter) : Value :=
  let f := entry.2
  .object [("short_name", .str entry.1), ("filter_type", .str f.kind.name),
    ("display_name", .str f.data.displayName), ("description", .str f.data.description),
    ("help_text", .str f.data.helpText), ("default_config", f.data.defaults),
    ("is_macro", .bool f.kind.expandsTags)]

/-- The descriptions of all filters. The first whose declared defaults are at fault fails. -/
def describe (r : Registry) : Except FilterError (List FilterInfo) :=
  r.entries.mapM fun entry =>
    match FilterInfo.check (infoRecord entry) with
    | .ok info => .ok info
    | .error faults => .error (.invalid faults)

end Registry

end ContentFilters

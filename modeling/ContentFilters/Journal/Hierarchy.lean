import ContentFilters.Config.Settings

/-!
# The hierarchy of loggers

Loggers have dotted names and form a tree: the parent of a logger is the nearest existing logger
above it, and the root is above all. A record travels from its logger upwards to every handler, as
far as each logger on the way propagates; a logger without a level of its own takes the level of the
nearest logger above that has one, whether or not records propagate there. A handler has a level
too, and passes over the records below it.

`request` is what the filters use. It makes sure that records reach some handler: if the propagation
path has none, the logger itself gets a handler that writes to standard output, and the configured
level if it had none.

Not modelled are the times of records, filters on loggers or handlers, loggers that are disabled,
the level under which all records can be turned off at once (it is zero, as in the beginning), names
given to further levels, and what is written elsewhere than to standard output, such as the warning
about a record that reaches no handler. Handlers are not closed or removed by anything here, and a
logger never is.
-/
namespace ContentFilters.Journal

/-- Where a handler puts records: on standard output as one line each, or nowhere. -/
inductive Sink where
  | output | discard
  deriving DecidableEq, Repr

structure Handler where
  sink : Sink
  level : Int := 0
  deriving DecidableEq, Repr

/-- The handler of a requested logger whose records reach no other. -/
def Handler.fallback : Handler := { sink := .output }

/-- A logger below the root. The root is named by the empty string, also as a parent. Level zero is
no level. -/
structure Logger where
  name : String
  parent : String := ""
  handlers : List Handler := []
  propagates : Bool := true
  level : Int := 0
  deriving DecidableEq, Repr

/-- All loggers, the root first and the others in order of creation. -/
structure Hierarchy where
  loggers : List Logger := [{ name := "", level := Level.warning.weight }]
  deriving DecidableEq, Repr

namespace Hierarchy

def rootName : String := "root"

/-- The stored name: the root answers to its written name and to the empty name. -/
def storedName (name : String) : String := if name = rootName then "" else name

def writtenName (name : String) : String := if name = "" then rootName else name

/-- The names above a dotted name, the nearest first. -/
def namesAbove (name : String) : List String :=
  go name.toList
where
  /-- The names above, found before the last point of `s`. -/
  go (s : Text) : List String :=
    match _h : Text.cutAtLast? '.' s with
    | none => []
    | some (before, _) =>
      if before = [] then [] else String.ofList before :: go before.dropLast
  termination_by s.length
  decreasing_by
    obtain ⟨⟨a, b⟩, hb, he⟩ := Option.map_eq_some_iff.1 _h
    obtain ⟨rfl, rfl⟩ := Prod.mk.inj he
    have := Text.length_of_cutAt? hb
    simp only [List.length_reverse, List.length_dropLast] at this ⊢
    omega

def logger? (h : Hierarchy) (name : String) : Option Logger :=
  h.loggers.find? (·.name == name)

/-- The logger with a stored name, with default values if there is none. -/
def logger (h : Hierarchy) (name : String) : Logger := (h.logger? name).getD { name := name }

def update (h : Hierarchy) (name : String) (f : Logger → Logger) : Hierarchy :=
  { loggers := h.loggers.map fun l => if l.name == name then f l else l }

/-- Whether a new logger takes the place of the parent of an existing one below it: not if that
parent's written name already starts with the new name. -/
def relinks (name : String) (child : Logger) : Bool :=
  (namesAbove child.name).contains name &&
    !(name.toList.isPrefixOf (writtenName child.parent).toList)

/-- Creates the logger with a stored name if it does not exist, and links it into the tree. -/
def ensure (h : Hierarchy) (name : String) : Hierarchy :=
  match h.logger? name with
  | some _ => h
  | none =>
    let parent := ((namesAbove name).find? fun above => (h.logger? above).isSome).getD ""
    let linked := h.loggers.map fun l => if relinks name l then { l with parent := name } else l
    { loggers := linked ++ [{ name := name, parent := parent }] }

/-- A logger and those above it up to the root. The length of the name bounds their number. -/
def lineage (h : Hierarchy) (name : String) : List Logger :=
  climb name.length name
where
  climb : Nat → String → List Logger
  | 0, name => [h.logger name]
  | budget + 1, name =>
    let l := h.logger name
    if name = "" then [l] else l :: climb budget l.parent

/-- The loggers that a record of a logger reaches: up to the first that does not propagate. -/
def propagationPath (h : Hierarchy) (name : String) : List Logger :=
  upTo (h.lineage name)
where
  /-- The loggers up to the first that does not propagate, that one included. -/
  upTo : List Logger → List Logger
  | [] => []
  | l :: rest => if l.propagates then l :: upTo rest else [l]

def reachedHandlers (h : Hierarchy) (name : String) : List Handler :=
  (h.propagationPath name).flatMap (·.handlers)

def hasHandlers (h : Hierarchy) (name : String) : Bool := !(h.reachedHandlers name).isEmpty

/-- The level of the nearest logger upwards that has one, and zero if none has. -/
def effectiveLevel (h : Hierarchy) (name : String) : Int :=
  (((h.lineage name).find? (·.level != 0)).map (·.level)).getD 0

/-- Whether a logger passes records of a level on. Those of level zero and below are turned off. -/
def isEnabled (h : Hierarchy) (name : String) (level : Int) : Bool :=
  0 < level ∧ h.effectiveLevel name ≤ level

def recipients (h : Hierarchy) (name : String) (level : Int) : List Handler :=
  if h.isEnabled name level then (h.reachedHandlers name).filter (·.level ≤ level) else []

/-- The line that a record becomes on standard output. -/
def writtenLine (name : String) (level : Int) (message : String) : String :=
  "TIME " ++ Level.shown level ++ " " ++ writtenName name ++ ": " ++ message ++ "\n"

/-- What logging a message writes to standard output. -/
def log (h : Hierarchy) (name : String) (level : Int) (message : String) : List String :=
  ((h.recipients name level).filter (·.sink == .output)).map fun _ => writtenLine name level message

def addHandler (h : Hierarchy) (name : String) (handler : Handler) : Hierarchy :=
  h.update name fun l => { l with handlers := l.handlers ++ [handler] }

def setLevel (h : Hierarchy) (name : String) (level : Int) : Hierarchy :=
  h.update name fun l => { l with level := level }

def setPropagates (h : Hierarchy) (name : String) (propagates : Bool) : Hierarchy :=
  h.update name fun l => { l with propagates := propagates }

/-- Requests a logger by its written name. A logger whose records reach no handler gets one that
writes to standard output, and the configured level if it has none; if the settings cannot be read
at that point, the handler stays. -/
def request (h : Hierarchy) (settings : Except SettingsError Settings) (name : String) :
    Hierarchy × Except SettingsError Unit :=
  let name := storedName name
  let h := h.ensure name
  if h.hasHandlers name then (h, .ok ())
  else
    let h := h.addHandler name .fallback
    if (h.logger name).level ≠ 0 then (h, .ok ())
    else match settings with
      | .error e => (h, .error e)
      | .ok s => (h.setLevel name s.logLevel.weight, .ok ())

end Hierarchy

end ContentFilters.Journal

import ContentFilters.Value.Basic

/-!
# Faults of supplied data

Checking a record finds all its faults, in the order of its fields and, inside a field, in the order
of the items. A fault says where it is and of which kind. `Checked` collects the faults of two parts
where an ordinary error would stop at the first.
-/
namespace ContentFilters

inductive FaultKind where
  | missing
  | notString
  | notList
  | notObject
  | notRecord
  | notTruthValue
  | unreadableTruthValue
  | unreadableInteger
  | oversizedInteger
  | unknownChoice
  deriving DecidableEq, Repr

/-- The code by which a report names a kind of fault. -/
def FaultKind.code : FaultKind → String
  | missing => "missing"
  | notString => "string_type"
  | notList => "list_type"
  | notObject => "dict_type"
  | notRecord => "model_type"
  | notTruthValue => "bool_type"
  | unreadableTruthValue => "bool_parsing"
  | unreadableInteger => "int_parsing"
  | oversizedInteger => "int_parsing_size"
  | unknownChoice => "literal_error"

structure Fault where
  path : List String
  kind : FaultKind
  deriving DecidableEq, Repr

/-- One fault in a report: the path joined by points, then the code. -/
def Fault.message (f : Fault) : String :=
  ".".intercalate f.path ++ ": " ++ f.kind.code

def Fault.report (faults : List Fault) : String :=
  "; ".intercalate (faults.map Fault.message)

/-- The outcome of a check: a result, or all faults found. -/
abbrev Checked (α : Type) := Except (List Fault) α

namespace Checked

variable {α β : Type}

def fault (path : List String) (kind : FaultKind) : Checked α := .error [⟨path, kind⟩]

/-- Checks two parts and keeps the faults of both. -/
def both (a : Checked α) (b : Checked β) : Checked (α × β) :=
  match a, b with
  | .ok x, .ok y => .ok (x, y)
  | .error e, .ok _ => .error e
  | .ok _, .error e => .error e
  | .error e, .error e' => .error (e ++ e')

/-- Checks every item of a list, each with its place, and keeps all faults. -/
def each (check : Nat → α → Checked β) : Nat → List α → Checked (List β)
  | _, [] => .ok []
  | i, x :: rest => ((check i x).both (each check (i + 1) rest)).map fun p => p.1 :: p.2

def string (path : List String) : Value → Checked String
  | .str s => .ok s
  | _ => fault path .notString

def stringList (path : List String) : Value → Checked (List String)
  | .list items => each (fun i v => string (path ++ [toString i]) v) 0 items
  | _ => fault path .notList

def object (path : List String) : Value → Checked (List (String × Value))
  | .object fields => .ok fields
  | _ => fault path .notObject

/-- Checks that a value is an object whose fields all pass a check. -/
def objectOf (check : List String → Value → Checked β) (path : List String) :
    Value → Checked (List (String × β))
  | .object fields =>
    each (fun _ f => (check (path ++ [f.1]) f.2).map fun v => (f.1, v)) 0 fields
  | _ => fault path .notObject

def truthWords : List String := ["1", "t", "y", "on", "yes", "true"]

def falsehoodWords : List String := ["0", "f", "n", "no", "off", "false"]

/-- Reads a truth value from one of the usual words in any case. -/
def truthWord (path : List String) (s : String) : Checked Bool :=
  let word := String.ofList (s.toList.map Text.lowerAscii)
  if truthWords.contains word then .ok true
  else if falsehoodWords.contains word then .ok false
  else fault path .unreadableTruthValue

/-- Reads a truth value from a truth value, a word, or the numbers zero and one. -/
def truthValue (path : List String) : Value → Checked Bool
  | .bool b => .ok b
  | .str s => truthWord path s
  | .int n => number n
  | .real x =>
    match x.toInt? with
    | some n => number n
    | none => fault path .notTruthValue
  | _ => fault path .notTruthValue
where
  /-- Reads a truth value from a whole number. -/
  number (n : Int) : Checked Bool :=
    if n = 0 then .ok false else if n = 1 then .ok true else fault path .unreadableTruthValue

end Checked

end ContentFilters

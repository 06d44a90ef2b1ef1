import ContentFilters.Value.Binary64

/-!
# Values

The values that options, defaults and settings hold: null, truth values, whole numbers of any size,
floating-point numbers, strings, lists, and objects whose fields keep the order in which they were
given. An option counts as supplied only when its value is truthy.
-/
namespace ContentFilters

inductive Value where
  | null
  | bool (b : Bool)
  | int (n : Int)
  | real (x : Binary64)
  | str (s : String)
  | list (items : List Value)
  | object (fields : List (String × Value))
  deriving Repr, Inhabited

namespace Value

def field? (name : String) : List (String × Value) → Option Value
  | [] => none
  | (key, value) :: rest => if key = name then some value else field? name rest

/-- Sets a field: in place if it is there, else at the end. -/
def setField (name : String) (value : Value) : List (String × Value) → List (String × Value)
  | [] => [(name, value)]
  | (key, old) :: rest =>
    if key = name then (key, value) :: rest else (key, old) :: setField name value rest

/-- Whether a value counts as given: null, false, zero, and what is empty do not. -/
def truthy : Value → Bool
  | null => false
  | bool b => b
  | int n => n != 0
  | real x => !x.isZero
  | str s => s != ""
  | list items => !items.isEmpty
  | object fields => !fields.isEmpty

end Value

end ContentFilters

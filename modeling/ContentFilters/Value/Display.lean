import ContentFilters.Value.Basic
import ContentFilters.Text.Quoted

/-!
# The displayed form of a value

How a value reads inside a text: a string as it is, everything else by a fixed spelling. Inside a
list or an object a string is quoted, so `["x"]` is shown as `['x']`.
-/
namespace ContentFilters.Value

mutual

/-- The form of a value inside a list or an object, and of a value that a message names. -/
def inspect : Value → Text
  | null => "None".toList
  | bool b => (if b then "True" else "False").toList
  | int n => (toString n).toList
  | real x => x.render
  | str s => Text.quoted s.toList
  | list items => '[' :: inspectItems items ++ [']']
  | object fields => '\x7b' :: inspectFields fields ++ ['\x7d']

def inspectItems : List Value → Text
  | [] => []
  | [v] => inspect v
  | v :: rest => inspect v ++ ", ".toList ++ inspectItems rest

def inspectFields : List (String × Value) → Text
  | [] => []
  | [(key, v)] => Text.quoted key.toList ++ ": ".toList ++ inspect v
  | (key, v) :: rest =>
    Text.quoted key.toList ++ ": ".toList ++ inspect v ++ ", ".toList ++ inspectFields rest

end

/-- The form of a value as text: a string is itself. -/
def display : Value → Text
  | str s => s.toList
  | v => inspect v

end ContentFilters.Value

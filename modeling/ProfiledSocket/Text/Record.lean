/-
The text of a value with a name: how messages show records, tuples, options and lists.

Main definitions:
* `Text.record` — a name and its fields between braces;
* `Text.tuple` — a name and its arguments between parentheses;
* `Text.list` — items between brackets.
-/

namespace ProfiledSocket.Text

/-- `name` followed by its fields, as in `Point { x: 1, y: 2 }`. -/
def record (name : String) (fields : List (String × String)) : String :=
  name ++ " \x7b " ++ ", ".intercalate (fields.map fun f => f.1 ++ ": " ++ f.2) ++ " \x7d"

/-- `name` followed by its arguments in parentheses. -/
def tuple (name : String) (arguments : List String) : String :=
  name ++ "(" ++ ", ".intercalate arguments ++ ")"

/-- `items` between brackets. -/
def list (items : List String) : String :=
  "[" ++ ", ".intercalate items ++ "]"

/-- `Some(…)` for a value and `None` for none. -/
def optional : Option String → String
  | some text => tuple "Some" [text]
  | none => "None"

/-- `true` or `false`. -/
def bool (b : Bool) : String := if b then "true" else "false"

end ProfiledSocket.Text

import DocRunner.Schema

/-!
# TOML values

`Toml.Value` is what a TOML document holds: scalars, arrays and tables, whose entries keep their order. Floats
and dates are kept as they are written. `Toml.Value.shape` is what a message calls a value.
-/

namespace DocRunner.Toml

/-- A value of a document. -/
inductive Value
  | string (text : String)
  | integer (value : Int)
  | float (literal : String)
  | boolean (value : Bool)
  | datetime (literal : String)
  | array (elements : List Value)
  | table (entries : List (String × Value))

/-- What a message calls a value. A date or time counts as a map. -/
def Value.shape : Value → Shape
  | string text => .text text
  | integer value => .integer value
  | float _ => .float
  | boolean value => .boolean value
  | datetime _ => .map
  | array _ => .sequence
  | table _ => .map

end DocRunner.Toml

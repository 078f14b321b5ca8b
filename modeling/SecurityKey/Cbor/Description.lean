import SecurityKey.Cbor.Value
import SecurityKey.Text.Float
import SecurityKey.Text.Quoted

/-!
# Values in messages

A message that refuses a value shows it: the kind of every part by name, and its content between brackets.
-/

namespace SecurityKey.Cbor

/-- Texts with a comma between them. -/
def commaSeparated (parts : List String) : String :=
  ", ".intercalate parts

mutual

/-- The text of a value. -/
def Value.describe : Value → String
  | .unsigned n => "Integer(Integer(" ++ toString n.toNat ++ "))"
  | .negative n => "Integer(Integer(-" ++ toString (n.toNat + 1) ++ "))"
  | .bytes content => "Bytes([" ++ commaSeparated (content.map fun b => toString b.toNat) ++ "])"
  | .text content => "Text(" ++ Text.quote content ++ ")"
  | .array items => "Array([" ++ commaSeparated (describeItems items) ++ "])"
  | .map entries => "Map([" ++ commaSeparated (describeEntries entries) ++ "])"
  | .tag number content => "Tag(" ++ toString number.toNat ++ ", " ++ content.describe ++ ")"
  | .bool b => if b then "Bool(true)" else "Bool(false)"
  | .null => "Null"
  | .float bits => "Float(" ++ Text.float bits ++ ")"

/-- The texts of the items of an array. -/
def describeItems : List Value → List String
  | [] => []
  | item :: items => item.describe :: describeItems items

/-- The texts of the entries of a map. -/
def describeEntries : List (Value × Value) → List String
  | [] => []
  | (key, value) :: entries => ("(" ++ key.describe ++ ", " ++ value.describe ++ ")") :: describeEntries entries

end

end SecurityKey.Cbor

import TreeTable.Value
import TreeTable.Decimal.Layout
import TreeTable.Text.Quoted

namespace TreeTable.Value

def displayFloat (x : Float) : String :=
  String.ofList (Decimal.ofBinary Decimal.cellLayout (Binary.ofFloat x))

mutual

def inner : Value → String
  | .null => "None"
  | .bool b => if b then "True" else "False"
  | .int n => toString n
  | .float x => displayFloat x
  | .text s => quoted s
  | .broken points => (Text.broken points).quoted
  | .list items => "[" ++ ", ".intercalate (innerItems items) ++ "]"
  | .object fields => "\x7b" ++ ", ".intercalate (innerFields fields) ++ "\x7d"

def innerItems : List Value → List String
  | [] => []
  | item :: rest => inner item :: innerItems rest

def innerFields : List (Text × Value) → List String
  | [] => []
  | (name, value) :: rest => (name.quoted ++ ": " ++ inner value) :: innerFields rest

end

def display : Value → String
  | .text s => s
  | .broken points => (Text.broken points).shown
  | value => inner value

def cellText : Value → String
  | .null => ""
  | value => display value

end TreeTable.Value

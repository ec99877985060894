import TreeTable.Failure

namespace TreeTable.Value

def asText : Value → Except Failure String
  | .text s => .ok s
  | .broken points => .ok (Text.broken points).shown
  | _ => .error .wrongType

def elements (data : Value) : Except Failure (List Value) :=
  match data.elements? with
  | some elements => .ok elements
  | none => .error .wrongType

def members (data : Value) : Except Failure (List Value) := do
  let elements ← data.elements
  if elements.all canBeKey then return elements else throw .wrongType

def join (separator : Value) (parts : List Value) : Except Failure String :=
  match separator with
  | .text s => do return s.intercalate (← parts.mapM asText)
  | .broken points => do return (Text.broken points).shown.intercalate (← parts.mapM asText)
  | _ => .error .noSuchField

def asIndex : Value → Except Failure Int
  | .int n => .ok n
  | .bool b => .ok b.toNat
  | _ => .error .wrongType

def positionBound : Nat := Nat.pow 2 63

def asBoundedIndex (data : Value) : Except Failure Int := do
  let index ← data.asIndex
  if -(positionBound : Int) ≤ index && index < positionBound then return index
  else throw .outOfBounds

def isWithin (length : Nat) : Value → Except Failure Bool
  | .int n => .ok (0 ≤ n && n < length)
  | .bool b => .ok (b.toNat < length)
  | .float x => .ok (0.0 ≤ x && x < length.toFloat)
  | _ => .error .wrongType

def isPositive : Value → Except Failure Bool
  | .int n => .ok (0 < n)
  | .bool b => .ok b
  | .float x => .ok (!(x ≤ 0.0))
  | _ => .error .wrongType

end TreeTable.Value

import TreeTable.Entries
import TreeTable.Decimal.Binary
import TreeTable.Text.Point

namespace TreeTable

inductive Value where
  | null
  | bool (b : Bool)
  | int (n : Int)
  | float (x : Float)
  | text (s : String)
  | broken (points : List Point)
  | list (items : List Value)
  | object (fields : List (Text × Value))
deriving Inhabited

def Text.value : Text → Value
  | .whole text => .text text
  | .broken points => .broken points

def Point.value : Point → Value
  | .char c => .text (String.ofList [c])
  | .half unit mark => .broken [.half unit mark]

namespace Value

def isEmpty : Value → Bool
  | .null => true
  | .bool b => !b
  | .int n => n == 0
  | .float x => x == 0.0
  | .text s => s.isEmpty
  | .broken points => points.isEmpty
  | .list items => items.isEmpty
  | .object fields => fields.isEmpty

def elements? : Value → Option (List Value)
  | .list items => some items
  | .text s => some (s.toList.map fun c => .text (String.ofList [c]))
  | .broken points => some (points.map Point.value)
  | .object fields => some (fields.map fun (name, _) => name.value)
  | _ => none

def canBeKey : Value → Bool
  | .list _ | .object _ => false
  | _ => true

def toInt? : Value → Option Int
  | .bool b => some b.toNat
  | .int n => some n
  | .float x => (Binary.ofFloat x).toInt?
  | _ => none

def rank? : Value → Option (Int × Int)
  | .bool b => some (0, b.toNat * twoTo 1074)
  | .int n => some (0, n * twoTo 1074)
  | .float x => (Binary.ofFloat x).rank?
  | _ => none

def field? (fields : List (Text × Value)) (name : Text) : Option Value :=
  Entries.value? fields name

mutual

def same : Value → Value → Bool
  | .null, .null => true
  | .text s, .text t => s == t
  | .broken s, .broken t => s == t
  | .float x, .float y => x == y || Binary.ofFloat x == .nan && Binary.ofFloat y == .nan
  | .list xs, .list ys => sameItems xs ys
  | .object xs, .object ys => xs.length == ys.length && sameFields xs ys
  | a, b =>
    match a.toInt?, b.toInt? with
    | some m, some n => m == n
    | _, _ => false

def sameItems : List Value → List Value → Bool
  | [], [] => true
  | x :: xs, y :: ys => same x y && sameItems xs ys
  | _, _ => false

def sameFields : List (Text × Value) → List (Text × Value) → Bool
  | [], _ => true
  | (name, x) :: rest, others =>
    (match field? others name with
      | some y => same x y
      | none => false) && sameFields rest others

end

mutual

def remark (mark : Char) : Value → Value
  | .broken points => .broken (points.map (Point.remark mark))
  | .list items => .list (remarkItems mark items)
  | .object fields => .object (remarkFields mark fields)
  | value => value

def remarkItems (mark : Char) : List Value → List Value
  | [] => []
  | item :: rest => remark mark item :: remarkItems mark rest

def remarkFields (mark : Char) : List (Text × Value) → List (Text × Value)
  | [] => []
  | (name, value) :: rest => (name.remark mark, remark mark value) :: remarkFields mark rest

end

end Value

instance : BEq Value := ⟨Value.same⟩

end TreeTable

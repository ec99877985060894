import TreeTable.Source.Tree

namespace TreeTable

namespace Roles

def pairOf (position : Nat) (element : Value) : Except Failure (Value × Value) :=
  match element.elements? with
  | none => .error .wrongType
  | some [key, value] => if key.canBeKey then .ok (key, value) else .error .wrongType
  | some other => .error (.notAPair position other.length)

def pairsOf (position : Nat) : List Value → Except Failure (List (Value × Value))
  | [] => .ok []
  | element :: rest => do
    let pair ← pairOf position element
    return pair :: (← pairsOf (position + 1) rest)

def ofValue (data : Value) : Except Failure Roles :=
  match data with
  | .object fields => .ok (fields.map fun (name, value) => (name.value, value))
  | data =>
    match data.elements? with
    | none => .error .wrongType
    | some elements => do return Entries.ofPairs (← pairsOf 0 elements)

def ofOptional (data : Value) : Except Failure Roles :=
  if data.isEmpty then .ok [] else ofValue data

end Roles

namespace Value

def headerTexts (data : Value) : Except Failure (Array String) :=
  if data.isEmpty then .ok #[] else do return ((← data.elements).map cellText).toArray

end Value

namespace Item

def valuesOf (fields : List (Text × Value)) : Except Failure (Array Value) :=
  match Value.field? fields "values" with
  | some data => do return (← data.elements).toArray
  | none => .ok #[]

def rolesOf (fields : List (Text × Value)) : Except Failure Roles :=
  match Value.field? fields "roles" with
  | some data => Roles.ofValue data
  | none => .ok []

/-- What is no object is no row, but that is only seen where the stack reaches. -/
def unreadable : (levels : Nat) → Failure
  | 0 => .exhausted
  | _ + 1 => .noSuchField

mutual

def ofValue (levels : Nat) : Value → Except Failure Item
  | .object fields =>
    match levels with
    | 0 => .error .exhausted
    | levels + 1 => do
      let values ← valuesOf fields
      let children ← childrenIn levels fields
      let roles ← rolesOf fields
      return ⟨values, children, roles⟩
  | _ => .error (unreadable levels)

def listOfValue (levels : Nat) : Value → Except Failure (List Item)
  | .list items => ofValues levels items
  | .text s => if s.isEmpty then .ok [] else .error (unreadable levels)
  | .broken points => if points.isEmpty then .ok [] else .error (unreadable levels)
  | .object fields => if fields.isEmpty then .ok [] else .error (unreadable levels)
  | _ => .error .wrongType

def childrenIn (levels : Nat) : List (Text × Value) → Except Failure (List Item)
  | [] => .ok []
  | (name, data) :: rest =>
    if name = "children" then listOfValue levels data else childrenIn levels rest

def ofValues (levels : Nat) : List Value → Except Failure (List Item)
  | [] => .ok []
  | data :: rest => do
    let item ← ofValue levels data
    return item :: (← ofValues levels rest)

end

end Item

namespace Tree

def ofValue (levels : Nat) : Value → Except Failure Tree
  | .object fields => do
    let field (name : String) := (Value.field? fields name).getD (.list [])
    let items ← Item.listOfValue levels (field "rows")
    let headers ← (field "headers").headerTexts
    let rowHeaders ← (field "row_headers").headerTexts
    let headerRoles ← Roles.ofOptional (field "header_roles")
    let rowHeaderRoles ← Roles.ofOptional (field "row_header_roles")
    return { headers, items, rowHeaders, headerRoles, rowHeaderRoles }
  | _ => .error .noSuchField

def chain (length : Nat) : Tree := { headers := #["N"], items := Item.chain 0 length }

end Tree

end TreeTable

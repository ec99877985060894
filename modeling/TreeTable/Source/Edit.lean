import TreeTable.Source.Document

namespace TreeTable.Tree

def locate (tree : Tree) (cyclic : Bool) (path : List Value) : Except Failure (List Nat) :=
  go tree.items path
where
  go (rows : List Item) : List Value → Except Failure (List Nat)
    | [] => .ok []
    | position :: rest => do
      match place? rows.length (← position.asIndex) with
      | none => throw .outOfRange
      | some index =>
        let below := ((rows[index]?).map Item.children).getD []
        let more ← go (if cyclic then tree.items else below) rest
        return if cyclic && !more.isEmpty then more else index :: more

def locateLevel (tree : Tree) (cyclic : Bool) : Option (List Value) → Except Failure (List Nat)
  | none => .ok []
  | some path => do
    match ← tree.locate cyclic path with
    | [] => throw .noSuchField
    | location => return location

def editLevel {α : Type} (change : List Item → Except Failure (α × List Item)) :
    (location : List Nat) → List Item → Except Failure (α × List Item)
  | [], rows => change rows
  | index :: rest, rows =>
    match rows[index]? with
    | none => .error .outOfRange
    | some item => do
      let (answer, children) ← editLevel change rest item.children
      return (answer, rows.set index { item with children })

def editRow (change : Item → Except Failure Item) :
    (location : List Nat) → List Item → Except Failure (List Item)
  | [], _ => .error .noSuchField
  | [index], rows =>
    match rows[index]? with
    | none => .error .outOfRange
    | some item => return rows.set index (← change item)
  | index :: rest, rows =>
    match rows[index]? with
    | none => .error .outOfRange
    | some item => do
      let children ← editRow change rest item.children
      return rows.set index { item with children }

def appendRow (tree : Tree) (location : List Nat) (values roles : Value) :
    Except Failure (Item × Tree) := do
  let item : Item := ⟨(← values.elements).toArray, [], ← Roles.ofOptional roles⟩
  let (_, items) ← editLevel (fun rows => .ok ((), rows ++ [item])) location tree.items
  return (item, { tree with items })

def removeRow (tree : Tree) (location : List Nat) (row : Value) : Except Failure (Item × Tree) := do
  let (item, items) ← editLevel (fun rows => do
    match place? rows.length (← row.asBoundedIndex) with
    | none => throw .outOfRange
    | some index =>
      match rows[index]? with
      | none => throw .outOfRange
      | some item => return (item, rows.eraseIdx index)) location tree.items
  return (item, { tree with items })

def mostNewColumns : Nat := Nat.pow 2 30

/-- Give a column a value. Columns between the last value and a new one become empty texts; a
negative column counts from the end. -/
def withValue (values : Array Value) (column : Int) (value : Value) :
    Except Failure (Array Value) :=
  if (values.size : Int) ≤ column then
    let more := column.toNat + 1 - values.size
    if Value.positionBound ≤ more then .error .outOfBounds
    else if mostNewColumns < more then .error .tooMuch
    else .ok ((values ++ Array.replicate (more - 1) (Value.text "")).push value)
  else
    match place? values.size column with
    | none => .error .outOfRange
    | some index => .ok (values.setIfInBounds index value)

def setValue (tree : Tree) (location : List Nat) (column value : Value) :
    Except Failure Tree := do
  let items ← editRow (fun item => do
    let values ← withValue item.values (← column.asIndex) value
    return { item with values }) location tree.items
  return { tree with items }

def setHeaders (tree : Tree) (headers : Value) : Except Failure Tree := do
  return { tree with headers := ((← headers.elements).map Value.cellText).toArray }

def clear (tree : Tree) : Tree := { tree with items := [], rowHeaders := #[] }

end TreeTable.Tree

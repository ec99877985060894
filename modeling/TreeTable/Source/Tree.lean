import TreeTable.Source.Item

namespace TreeTable

structure Tree where
  headers : Array String := #[]
  items : List Item := []
  rowHeaders : Array String := #[]
  headerRoles : Roles := []
  rowHeaderRoles : Roles := []

structure TreeCell where
  item : Item
  column : Value

/-- Answers that a tree gives in place of its own. A failure is answered before anything is
looked up. -/
structure Faults where
  rowCount : Option Int := none
  columnCount : Option Int := none
  childRowCount : Option Int := none
  childColumnCount : Option Int := none
  cyclic : Bool := false
  cell : Option Failure := none
  role : Option Failure := none
  header : Option Failure := none
  headerRole : Option Failure := none

namespace Tree

def level (tree : Tree) (cyclic : Bool) : Option TreeCell → List Item
  | none => tree.items
  | some parent => if cyclic then tree.items else parent.item.children

def width (tree : Tree) (rows : List Item) : Nat :=
  if tree.headers.isEmpty then (rows.map fun item => item.values.size).foldl max 0
  else tree.headers.size

def headerText (tree : Tree) (axis : Axis) (index : Value) :
    Option Value → Except Failure (Option String)
  | some role =>
    let roles := match axis with | .column => tree.headerRoles | .row => tree.rowHeaderRoles
    roles.text role index
  | none => index.lookIn (match axis with | .column => tree.headers | .row => tree.rowHeaders)

def cellText (cell : TreeCell) : Option Value → Except Failure (Option String)
  | some role => cell.item.roles.text role cell.column
  | none => cell.item.text? cell.column

def describeCell (cell : TreeCell) : String :=
  "ModelIndex(item=" ++ cell.item.describe ++ ", column=" ++ cell.column.inner ++ ")"

def unlessFaulty {α : Type} (fault : Option Failure) (answer : Except Failure α) :
    Except Failure α :=
  match fault with
  | some failure => .error failure
  | none => answer

def faultySource (tree : Tree) (faults : Faults) : Source TreeCell where
  rowCount parent :=
    let fault := if parent.isNone then faults.rowCount else faults.childRowCount
    .ok (fault.getD (tree.level faults.cyclic parent).length)
  columnCount parent :=
    let fault := if parent.isNone then faults.columnCount else faults.childColumnCount
    .ok (fault.getD (tree.width (tree.level faults.cyclic parent)))
  cell row column parent := do
    match pick? (tree.level faults.cyclic parent) (← row.asIndex) with
    | some item => return ⟨item, column⟩
    | none => throw .outOfRange
  text cell role :=
    unlessFaulty (if role.isNone then faults.cell else faults.role) (cellText cell role)
  header axis index role :=
    unlessFaulty (if role.isNone then faults.header else faults.headerRole) do
      return ((← tree.headerText axis index role).map Value.text).getD .null
  describe := describeCell

def source (tree : Tree) : Source TreeCell := tree.faultySource {}

end Tree

end TreeTable

import TreeTable.Source.Item

namespace TreeTable

/-- Rows and columns stand in the order in which their names were first used. A name may be of a
kind that no text can be kept under. -/
structure Matrix where
  rowNames : Array Value := #[]
  columnNames : Array Value := #[]
  cells : Entries Value (Entries Value String) := []

structure Place where
  row : Value
  column : Value

namespace Matrix

def value? (matrix : Matrix) (row column : Value) : Option String :=
  (Entries.value? matrix.cells row).bind (Entries.value? · column)

def named (matrix : Matrix) (row column : Value) : Except Failure (Option String) :=
  if row.canBeKey && column.canBeKey then .ok (matrix.value? row column) else .error .wrongType

def withName (names : Array Value) (name : Value) : Array Value :=
  if names.contains name then names else names.push name

def withNames (matrix : Matrix) (row column : Value) : Matrix :=
  { matrix with
    rowNames := withName matrix.rowNames row
    columnNames := withName matrix.columnNames column }

def set (matrix : Matrix) (row column value : Value) : Except Failure Matrix :=
  if row.canBeKey && column.canBeKey then
    let line := (Entries.value? matrix.cells row).getD []
    .ok { matrix.withNames row column with
      cells := Entries.put matrix.cells row (Entries.put line column value.cellText) }
  else .error .wrongType

def lines (matrix : Matrix) : Except Failure (List (List (Option String))) :=
  matrix.rowNames.toList.mapM fun row => matrix.columnNames.toList.mapM (matrix.named row)

def textAt (matrix : Matrix) (place : Place) : Except Failure (Option String) := do
  let some row ← place.row.lookIn matrix.rowNames | return none
  let some column ← place.column.lookIn matrix.columnNames | return none
  matrix.named row column

def describePlace (place : Place) : String :=
  "MatrixIndex(row=" ++ place.row.inner ++ ", column=" ++ place.column.inner ++ ")"

def source (matrix : Matrix) : Source Place where
  rowCount parent := .ok (if parent.isNone then matrix.rowNames.size else 0)
  columnCount _ := .ok matrix.columnNames.size
  cell row column _ := .ok ⟨row, column⟩
  text place role := if role.isNone then matrix.textAt place else .ok none
  header axis index role := do
    if role.isSome then return .null
    let names := match axis with | .row => matrix.rowNames | .column => matrix.columnNames
    return (← index.lookIn names).getD .null
  describe := describePlace

end Matrix

end TreeTable

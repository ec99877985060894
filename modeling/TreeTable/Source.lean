import TreeTable.Value.Demand

/-!
Tables whose rows may hold further rows, as a reader sees them.
-/

namespace TreeTable

inductive Axis where
  | row
  | column
deriving DecidableEq, Repr

def Axis.read? : String → Option Axis
  | "row" => some .row
  | "column" => some .column
  | _ => none

/-- What a table answers. `none` stands for the root where a parent is asked for, for the text to
show where a role is, and for absent text in an answer; an absent header is null. A source may
answer anything: counts may be negative or disagree with each other, the rows may go round in
circles, and every question may fail. Positions are whole numbers, and it is the source that turns
down others. The rows below a row are those whose parent is that row's cell in column 0. -/
structure Source (ν : Type) where
  rowCount : Option ν → Except Failure Int
  columnCount : Option ν → Except Failure Int
  cell : (row column : Value) → Option ν → Except Failure ν
  text : ν → Option Value → Except Failure (Option String)
  header : Axis → Value → Option Value → Except Failure Value
  describe : ν → String

namespace Source

variable {ν : Type}

def checked (source : Source ν) (measure : Measure) (parent : Option ν) (count : Int) :
    Except Failure Nat :=
  if count < 0 then .error (.negativeCount measure count (parent.map source.describe))
  else .ok count.toNat

def rows (source : Source ν) (parent : Option ν) : Except Failure Nat := do
  source.checked .rows parent (← source.rowCount parent)

def columns (source : Source ν) (parent : Option ν) : Except Failure Nat := do
  source.checked .columns parent (← source.columnCount parent)

def shown (source : Source ν) (row column : Value) (parent : Option ν) :
    Except Failure String := do
  let node ← source.cell row column parent
  return (← source.text node none).getD ""

def headerShown (source : Source ν) (axis : Axis) (index : Value) : Except Failure Value := do
  match ← source.header axis index none with
  | .null => return .text ""
  | header => return header

/-- The value of an optional role. A role that is not configured, that the source does not carry or
that it cannot find is empty; other failures are passed on. -/
def decoration (lookup : Value → Except Failure String) : Option Value → Except Failure String
  | none => .ok ""
  | some role =>
    match lookup role with
    | .ok answer => .ok answer
    | .error failure => if failure.isAbsence then .ok "" else .error failure

def resolve (source : Source ν) : List Value → Except Failure (Option ν) :=
  go none
where
  go (parent : Option ν) : List Value → Except Failure (Option ν)
    | [] => .ok parent
    | row :: rest => do go (some (← source.cell row (.int 0) parent)) rest

end Source

end TreeTable

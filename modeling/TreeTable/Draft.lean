import TreeTable.Walk
import TreeTable.Delegate
import TreeTable.Config

namespace TreeTable

structure Draft where
  asked : Nat := 0
  /-- Why the delegate does not give the cell text that so many came before, if it does not. -/
  refusal : Nat → Option Failure := fun _ => none
  pieces : List String := []
  cells : List Value := []

abbrev Render := Step Draft

namespace Render

variable {ν : Type}

def ask (delegate : Delegate) (source : Source ν) (parent : Option ν) (row column : Value) :
    Render String := do
  let { asked, refusal, .. } ← get
  modify fun draft => { draft with asked := asked + 1 }
  match refusal asked with
  | some failure => throw failure
  | none => Step.of (delegate.text source parent row column)

def write (piece : String) : Render Unit :=
  modify fun draft => { draft with pieces := piece :: draft.pieces }

def addCell (cell : Value) : Render Unit :=
  modify fun draft => { draft with cells := cell :: draft.cells }

def clearCells : Render Unit := modify fun draft => { draft with cells := [] }

def rowCells : Render (List Value) := return (← get).cells.reverse

def written : Render (List String) := return (← get).pieces.reverse

def walkAll (config : Config) (source : Source ν) (visit : Event ν → Render Unit)
    (recursive : Bool) (budget : Option Budget) : Render Bool := do
  let deepest ← Step.of (Walk.ceiling config.maxDepth)
  Walk.within budget (walk source visit none 0 recursive deepest)

end Render

end TreeTable

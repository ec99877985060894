import TreeTable.Source

/-!
Depth-first walks: the cells of a row, then all rows below it, then the next row of its level. A
visitor is told of every step; a budget caps the number of rows of the whole walk, whatever their
level.
-/

namespace TreeTable

inductive Event (ν : Type) where
  | beginLevel (parent : Option ν) (depth : Int) (rows : Nat)
  | beginRow (parent : Option ν) (row : Nat) (depth : Int)
  | cell (parent : Option ν) (row column : Nat) (depth : Int)
  | endRow (parent : Option ν) (row : Nat) (depth : Int)
  | closeRow (parent : Option ν) (row : Nat) (depth : Int)
  | endLevel (parent : Option ν) (depth : Int) (rows : Nat)

/-- Neither counts nor levels come near it. -/
def unreached : Int := Decimal.tenTo 30

structure Budget where
  cap : Option Int := none
  count : Int := 0
  truncated : Bool := false
deriving DecidableEq, Repr

namespace Budget

def capOf : Value → Option Int
  | .int n => some n
  | .bool b => some b.toNat
  | .float x =>
    let limit := Binary.ofFloat x
    if limit = .infinite true then some (-unreached) else limit.ceil?
  | _ => none

def ofLimit (limit : Option Value) : Budget := { cap := limit.bind capOf }

def isLimit : Value → Bool
  | .null | .bool _ | .int _ | .float _ => true
  | _ => false

def resume (limit : Value) (count : Int) (truncated : Bool) : Except Failure Budget :=
  if truncated || isLimit limit then .ok { cap := capOf limit, count, truncated }
  else .error .wrongType

def exhausted (budget : Budget) : Bool :=
  budget.truncated || match budget.cap with
    | none => false
    | some cap => cap ≤ budget.count

def take (budget : Budget) : Bool × Budget :=
  if budget.exhausted then (false, { budget with truncated := true })
  else (true, { budget with count := budget.count + 1 })

end Budget

structure Progress (σ : Type) where
  budget : Option Budget
  kept : σ

abbrev Step (σ : Type) := EStateM Failure σ

def Step.of {σ α : Type} : Except Failure α → Step σ α
  | .ok answer => pure answer
  | .error failure => throw failure

namespace Walk

variable {ν σ : Type}

def visiting {α : Type} (step : Step σ α) : Step (Progress σ) α := fun progress =>
  match step progress.kept with
  | .ok answer kept => .ok answer { progress with kept }
  | .error failure kept => .error failure { progress with kept }

def admitted : Step (Progress σ) Bool := fun progress =>
  match progress.budget with
  | none => .ok true progress
  | some budget =>
    let (room, budget) := budget.take
    .ok room { progress with budget := some budget }

def cells (visit : Event ν → Step σ Unit) (parent : Option ν) (row : Nat) (depth : Int)
    (column : Nat) : (left : Nat) → Step σ Unit
  | 0 => pure ()
  | left + 1 => do
    visit (.cell parent row column depth)
    cells visit parent row depth (column + 1) left

def rows (visit : Event ν → Step σ Unit) (descend : Nat → Step (Progress σ) Unit)
    (parent : Option ν) (columns : Nat) (depth : Int) (row : Nat) :
    (left : Nat) → Step (Progress σ) Unit
  | 0 => pure ()
  | left + 1 => do
    if ← admitted then
      visiting do
        visit (.beginRow parent row depth)
        cells visit parent row depth 0 columns
        visit (.endRow parent row depth)
      descend row
      visiting (visit (.closeRow parent row depth))
      rows visit descend parent columns depth (row + 1) left
    else pure ()

def level (source : Source ν) (visit : Event ν → Step σ Unit) (recursive : Bool) :
    (levels : Nat) → (depth : Int) → (parent : Option ν) → Step (Progress σ) Unit
  | 0, _, _ => throw .tooDeep
  | levels + 1, depth, parent => do
    let rowCount ← Step.of (source.rows parent)
    let columnCount ← Step.of (source.columns parent)
    visiting (visit (.beginLevel parent depth rowCount))
    let descend (row : Nat) : Step (Progress σ) Unit :=
      if recursive then do
        let child ← Step.of (source.cell (.int row) (.int 0) parent)
        level source visit recursive levels (depth + 1) (some child)
      else pure ()
    rows visit descend parent columnCount depth 0 rowCount
    visiting (visit (.endLevel parent depth rowCount))

end Walk

def Walk.ceiling : Value → Except Failure Int
  | .int n => .ok n
  | .bool b => .ok b.toNat
  | .float x =>
    let level := Binary.ofFloat x
    .ok (level.floor?.getD (if level = .infinite true then -unreached else unreached))
  | _ => .error .wrongType

/-- Visit the rows of `parent` and, if `recursive`, all rows below them. No level deeper than
`maxDepth` is entered: a source that goes round in circles would never end. The answer is whether
the budget has left rows out. The stack is taken to reach as deep as the walk does, which a host with
a stack for fewer levels does not grant. -/
def walk {ν σ : Type} (source : Source ν) (visit : Event ν → Step σ Unit) (parent : Option ν)
    (depth : Int) (recursive : Bool) (maxDepth : Int) : Step (Progress σ) Bool := do
  Walk.level source visit recursive (maxDepth + 1 - depth).toNat depth parent
  return ((← get).budget.map Budget.truncated).getD false

def Walk.within {σ : Type} (budget : Option Budget) (steps : Step (Progress σ) Bool) :
    Step σ Bool := fun kept =>
  match steps ⟨budget, kept⟩ with
  | .ok answer progress => .ok answer progress.kept
  | .error failure progress => .error failure progress.kept

end TreeTable

import TreeTable.Content

namespace TreeTable

namespace Event

variable {ν μ : Type}

def parent? : Event ν → Option ν
  | .beginLevel parent .. | .beginRow parent .. | .cell parent .. | .endRow parent ..
  | .closeRow parent .. | .endLevel parent .. => parent

def under (parent : Option μ) : Event ν → Event μ
  | .beginLevel _ depth rows => .beginLevel parent depth rows
  | .beginRow _ row depth => .beginRow parent row depth
  | .cell _ row column depth => .cell parent row column depth
  | .endRow _ row depth => .endRow parent row depth
  | .closeRow _ row depth => .closeRow parent row depth
  | .endLevel _ depth rows => .endLevel parent depth rows

end Event

namespace Walk

variable {ν : Type}

def note (source : Source ν) (event : Event ν) : Step (List (Event String)) Unit := do
  let label ← match event.parent? with
    | none => pure none
    | some parent => Step.of (source.text parent none)
  modify (event.under label :: ·)

structure Record where
  answer : Except Failure Bool
  events : List (Event String)
  budget : Option Budget

def record (source : Source ν) (path : List Value) (depth : Int) (recursive : Bool)
    (maxDepth : Value) (budget : Option Budget) (silent : Bool) : Record :=
  let start : Except Failure (Option ν × Int) := do
    let parent ← source.resolve path
    return (parent, ← ceiling maxDepth)
  match start with
  | .error failure => ⟨.error failure, [], budget⟩
  | .ok (parent, deepest) =>
    let visit := if silent then fun _ => pure () else note source
    match walk source visit parent depth recursive deepest ⟨budget, []⟩ with
    | .ok answer progress => ⟨.ok answer, progress.kept.reverse, progress.budget⟩
    | .error failure progress => ⟨.error failure, progress.kept.reverse, progress.budget⟩

def recordNothing (path : List Value) (depth : Int) (maxDepth : Value) (budget : Option Budget) :
    Record :=
  let answer : Except Failure Bool := do
    if !path.isEmpty then throw .noSuchField
    if (← ceiling maxDepth) < depth then throw .tooDeep
    throw .noSuchField
  ⟨answer, [], budget⟩

end Walk

def Content.walkRecord (content : Option Content) (path : List Value) (depth : Int)
    (recursive : Bool) (maxDepth : Value) (budget : Option Budget) (silent : Bool) : Walk.Record :=
  match content with
  | none => Walk.recordNothing path depth maxDepth budget
  | some content => content.query fun source =>
    Walk.record source path depth recursive maxDepth budget silent

end TreeTable

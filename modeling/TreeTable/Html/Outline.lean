import TreeTable.Html.Decoration

namespace TreeTable.Html.Outline

variable {ν : Type}

def hasList (depth : Int) (rows : Nat) : Bool := depth == 0 || rows != 0

def visit (delegate : Delegate) (source : Source ν) : Event ν → Render Unit
  | .beginLevel _ depth rows => if hasList depth rows then Render.write "<ul>" else pure ()
  | .beginRow .. => Render.clearCells
  | .cell parent row column _ => do
    Render.addCell (.text (← Render.ask delegate source parent (.int row) (.int column)))
  | .endRow .. => do
    Render.write ("<li>" ++ " ".intercalate ((← Render.rowCells).map Value.display))
  | .closeRow .. => Render.write "</li>"
  | .endLevel _ depth rows => if hasList depth rows then Render.write "</ul>" else pure ()

def render (config : Config) (delegate : Delegate) (source : Source ν) : Render String := do
  let _ ← Render.walkAll config source (visit delegate source) true none
  return String.join (← Render.written) ++ "\n"

end TreeTable.Html.Outline

import TreeTable.Html.Decoration

namespace TreeTable.Html.Inline

variable {ν : Type}

def defaultSeparator : String := " "

def visit (config : Config) (delegate : Delegate) (source : Source ν) : Event ν → Render Unit
  | .beginRow parent row _ => do
    let item ← decorated config delegate source parent (.int row) config.displayedColumn
    Render.write ((← Step.of config.constantPrefix.asText) ++ item)
  | _ => pure ()

def render (config : Config) (delegate : Delegate) (source : Source ν) : Render Value := do
  let _ ← Render.walkAll config source (visit config delegate source) false none
  let items ← Render.written
  if items.isEmpty then return config.emptyPlaceholder
  else
    let separator := config.separator.getD (.text defaultSeparator)
    return .text (← Step.of (separator.join (items.map .text)))

end TreeTable.Html.Inline

import TreeTable.Draft

namespace TreeTable.Html

variable {ν : Type}

def classAttribute (name : String) : String :=
  if name.isEmpty then "" else " class=\"" ++ name ++ "\""

def linked (text address className : String) : String :=
  if address.isEmpty then text
  else "<a href=\"" ++ address ++ "\"" ++ classAttribute className ++ ">" ++ text ++ "</a>"

def role (source : Source ν) (node : ν) (name : Option Value) : Except Failure String :=
  Source.decoration (fun role => do return (← source.text node (some role)).getD "") name

def headerRole (source : Source ν) (axis : Axis) (index : Nat) (name : Option Value) :
    Except Failure String :=
  Source.decoration (fun role => Value.cellText <$> source.header axis (.int index) (some role))
    name

def decorated (config : Config) (delegate : Delegate) (source : Source ν) (parent : Option ν)
    (row column : Value) : Render String := do
  let node ← Step.of (source.cell row column parent)
  let text ← Render.ask delegate source parent row column
  let address ← Step.of (role source node config.linkRole)
  let className ←
    if address.isEmpty then pure "" else Step.of (role source node config.linkClassRole)
  let markup ← Step.of (role source node config.htmlPrefixRole)
  return markup ++ linked text address className

end TreeTable.Html

import TreeTable.Html.Decoration

namespace TreeTable.Html.Table

variable {ν : Type}

def fullWidthRow (span : Nat) (text : String) : String :=
  "<tr><td colspan=" ++ toString span ++ ">" ++ text ++ "</td></tr>\n"

def headerCells (config : Config) (delegate : Delegate) (source : Source ν) (column : Nat) :
    (left : Nat) → Except Failure (List String)
  | 0 => .ok []
  | left + 1 => do
    let markup ← headerRole source .column column config.htmlPrefixRole
    let header ← delegate.headerText source .column (.int column)
    let cell := "<th>" ++ markup ++ header.display ++ "</th>"
    return cell :: (← headerCells config delegate source (column + 1) left)

def headerRow (config : Config) (delegate : Delegate) (source : Source ν) (columns : Nat) :
    Except Failure String := do
  let corner := if config.rowHeaders then "<th>" ++ config.topLeftHeader.display ++ "</th>" else ""
  let cells ← headerCells config delegate source 0 columns
  return "<tr>" ++ corner ++ String.join cells ++ "</tr>\n"

def rowHeader (config : Config) (delegate : Delegate) (source : Source ν) (row : Nat) :
    Except Failure String := do
  let markup ← headerRole source .row row config.htmlPrefixRole
  let header ← delegate.headerText source .row (.int row)
  return "<th>" ++ markup ++ (← header.asText) ++ "</th>"

def indent (column : Nat) (depth : Int) : String :=
  if column = 0 then String.join (List.replicate depth.toNat "&nbsp;&nbsp;") else ""

def visit (config : Config) (delegate : Delegate) (source : Source ν) : Event ν → Render Unit
  | .beginRow parent row _ => do
    let first ← Step.of (source.cell (.int row) (.int 0) parent)
    let className ← Step.of (role source first config.rowClassRole)
    Render.write ("<tr" ++ classAttribute className ++ ">")
    if config.rowHeaders then
      Render.write (← Step.of (rowHeader config delegate source row))
  | .cell parent row column depth => do
    let node ← Step.of (source.cell (.int row) (.int column) parent)
    let className ← Step.of (role source node config.cellClassRole)
    let text ← decorated config delegate source parent (.int row) (.int column)
    Render.write
      ("<td" ++ classAttribute className ++ ">" ++ indent column depth ++ text ++ "</td>")
  | .endRow .. => Render.write "</tr>\n"
  | _ => pure ()

def body (config : Config) (delegate : Delegate) (source : Source ν) : Render (Option Value) := do
  let cap ← Step.of config.rowCap
  let truncated ← Render.walkAll config source (visit config delegate source) true
    (some (Budget.ofLimit cap))
  return if truncated then cap else none

def render (config : Config) (delegate : Delegate) (source : Source ν) :
    Render (String × Option Value) := do
  let columns := (← Step.of (source.columnCount none)).toNat
  let span := columns + if config.rowHeaders then 1 else 0
  let header ←
    if config.columnHeaders then Step.of (headerRow config delegate source columns) else pure ""
  let opening := "<table" ++ classAttribute config.tableClass ++ ">\n" ++ header
  if (← Step.of (source.rowCount none)) = 0 then
    let placeholder :=
      if config.emptyPlaceholder.isEmpty then ""
      else fullWidthRow span config.emptyPlaceholder.display
    return (opening ++ placeholder ++ "</table>\n", none)
  else
    let capReached ← body config delegate source
    let rows := String.join (← Render.written)
    let ellipsis :=
      if capReached.isSome then fullWidthRow span config.ellipsisPlaceholder else ""
    return (opening ++ rows ++ ellipsis ++ "</table>\n", capReached)

end TreeTable.Html.Table

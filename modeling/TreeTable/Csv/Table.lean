import TreeTable.Draft
import TreeTable.Csv.Field

namespace TreeTable.Csv

variable {ν : Type}

def defaultSeparator : String := ";"

structure Writer where
  config : Config
  delegate : Delegate
  nested : Bool
  separator : Value
  format : FieldFormat

namespace Writer

def ofConfig (config : Config) (delegate : Delegate) (nested : Bool) : Except Failure Writer := do
  let separator := config.separator.getD (.text defaultSeparator)
  return { config, delegate, nested, separator, format := ← FieldFormat.ofConfig config separator }

def field (writer : Writer) (text : Value) : Except Failure Value := writer.format.write text

def record (writer : Writer) (fields : List Value) : Except Failure String := do
  let line ← writer.separator.join fields
  return line ++ (← writer.config.recordSeparator.asText)

def indent (writer : Writer) (column : Nat) (depth : Int) : String :=
  if writer.nested && column == 0 then String.ofList (List.replicate depth.toNat ' ') else ""

def headerFields (writer : Writer) (source : Source ν) (column : Nat) :
    (left : Nat) → Except Failure (List Value)
  | 0 => .ok []
  | left + 1 => do
    let field ← writer.field (← writer.delegate.headerText source .column (.int column))
    return field :: (← headerFields writer source (column + 1) left)

def headerLine (writer : Writer) (source : Source ν) : Except Failure String := do
  let corner ←
    if writer.config.rowHeaders then pure [← writer.field writer.config.topLeftHeader]
    else pure []
  let columns ← source.columnCount none
  writer.record (corner ++ (← writer.headerFields source 0 columns.toNat))

def visit (writer : Writer) (source : Source ν) : Event ν → Render Unit
  | .beginRow _ row _ => do
    Render.clearCells
    if writer.config.rowHeaders then
      let text ← Step.of (writer.delegate.headerText source .row (.int row))
      Render.addCell (← Step.of (writer.field text))
  | .cell parent row column depth => do
    let text ← Render.ask writer.delegate source parent (.int row) (.int column)
    let text := writer.indent column depth ++ text
    Render.addCell (← Step.of (writer.field (.text text)))
  | .endRow .. => do Render.write (← Step.of (writer.record (← Render.rowCells)))
  | _ => pure ()

def render (writer : Writer) (source : Source ν) : Render String := do
  let header ←
    if writer.config.columnHeaders then Step.of (writer.headerLine source) else pure ""
  let _ ← Render.walkAll writer.config source (writer.visit source) writer.nested none
  return header ++ String.join (← Render.written)

end Writer

end TreeTable.Csv

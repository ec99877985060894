import TreeTable.Csv.Table
import TreeTable.Html.Inline
import TreeTable.Html.Outline
import TreeTable.Html.Table
import TreeTable.Registry

/-!
The output formats, and serializers: a format with the options and the delegate to render with.
-/

namespace TreeTable

inductive Format where
  | csv
  | csvTree
  | htmlSet
  | htmlList
  | htmlTable
deriving DecidableEq, Repr

namespace Format

def title : Format → String
  | .csv => "CsvFlatSerializer"
  | .csvTree => "CsvTreeSerializer"
  | .htmlSet => "HtmlInlineSetSerializer"
  | .htmlList => "HtmlListSerializer"
  | .htmlTable => "HtmlTableSerializer"

def description : Format → String
  | .csv => "Render the top-level rows of a source as CSV."
  | .csvTree => "Render every node of a source as CSV, parents before children."
  | .htmlSet => "Render one column of the top-level rows as an inline HTML run."
  | .htmlList => "Render the tree as nested ``<ul>`` lists."
  | .htmlTable => "Render every node as a row of an HTML table, parents first."

def key : Format → String
  | .csv => "csv"
  | .csvTree => "csv-tree"
  | .htmlSet => "html-set"
  | .htmlList => "html-list"
  | .htmlTable => "html-table"

def all : List Format := [.csv, .csvTree, .htmlSet, .htmlList, .htmlTable]

def keys : List String := all.map key

def registry : Registry Format where
  name := "serializer"
  entries := all.map fun format => (.text format.key,
    { title := format.title, description := .text format.description, make := format })

def defaultSeparator : Format → String
  | .htmlSet => Html.Inline.defaultSeparator
  | _ => Csv.defaultSeparator

end Format

structure Rendering where
  outcome : Except Failure Value
  asked : Nat
  capReached : Option Value

structure Serializer where
  format : Format
  config : Config := {}
  delegate : Delegate := .plain

namespace Serializer

def separator (serializer : Serializer) : Value :=
  serializer.config.separator.getD (.text serializer.format.defaultSeparator)

variable {ν : Type}

def render (serializer : Serializer) (source : Source ν) : Render (Value × Option Value) := do
  let config := serializer.config
  let delegate := serializer.delegate
  match serializer.format with
  | .csv =>
    let writer ← Step.of (Csv.Writer.ofConfig config delegate false)
    return (.text (← writer.render source), none)
  | .csvTree =>
    let writer ← Step.of (Csv.Writer.ofConfig config delegate true)
    return (.text (← writer.render source), none)
  | .htmlSet => return (← Html.Inline.render config delegate source, none)
  | .htmlList => return (.text (← Html.Outline.render config delegate source), none)
  | .htmlTable =>
    let (text, capReached) ← Html.Table.render config delegate source
    return (.text text, capReached)

def rendering (serializer : Serializer) (refusal : Nat → Option Failure) (source : Source ν) :
    Rendering :=
  match serializer.render source { refusal } with
  | .ok (text, capReached) draft => ⟨.ok text, draft.asked, capReached⟩
  | .error failure draft => ⟨.error failure, draft.asked, none⟩

def sharesConfig (options : List (String × Value)) : Bool := options.isEmpty

def reservedNames : List String := Registry.reservedNames ++ ["config", "delegate"]

def create (key : Value) (config : Config) (delegate : Delegate)
    (options : List (String × Value)) : Except Failure Serializer := do
  if options.any fun (name, _) => reservedNames.contains name then throw .wrongType
  let format ← Format.registry.get key
  let unknown := (Entries.keys options).filter fun name => !Config.isField name
  if !unknown.isEmpty then
    throw (.unknownOptions Format.registry.name key.display (unknown.mergeSort (· ≤ ·)))
  return { format := format.make, config := config.setAll options, delegate }

end Serializer

end TreeTable

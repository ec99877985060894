import TreeTable.Value.Demand

namespace TreeTable

structure Config where
  columnHeaders : Bool := true
  rowHeaders : Bool := false
  topLeftHeader : Value := .text ""
  emptyPlaceholder : Value := .text "(empty)"
  ellipsisPlaceholder : String := "..."
  maxRows : Value := .int 100
  separator : Option Value := none
  recordSeparator : Value := .text "\n"
  fieldQuote : Option Value := none
  escapeChar : Option Value := none
  replacementChar : Option Value := none
  tableClass : String := ""
  constantPrefix : Value := .text ""
  displayedColumn : Value := .int 0
  linkRole : Option Value := none
  linkClassRole : Option Value := none
  htmlPrefixRole : Option Value := none
  rowClassRole : Option Value := none
  cellClassRole : Option Value := none
  maxDepth : Value := .int 256

namespace Config

def rowCap (config : Config) : Except Failure (Option Value) :=
  match config.maxRows with
  | .null => .ok none
  | rows => do return if ← rows.isPositive then some rows else none

def optional : Value → Option Value
  | .null => none
  | data => some data

def nonempty (data : Value) : Option Value := if data.isEmpty then none else some data

def fields : Entries String (Value → Config → Config) := [
  ("column_headers", fun data config => { config with columnHeaders := !data.isEmpty }),
  ("row_headers", fun data config => { config with rowHeaders := !data.isEmpty }),
  ("top_left_header", fun data config => { config with topLeftHeader := data }),
  ("empty_placeholder", fun data config => { config with emptyPlaceholder := data }),
  ("ellipsis_placeholder", fun data config => { config with ellipsisPlaceholder := data.display }),
  ("max_rows", fun data config => { config with maxRows := data }),
  ("separator", fun data config => { config with separator := optional data }),
  ("record_separator", fun data config => { config with recordSeparator := data }),
  ("field_quote", fun data config => { config with fieldQuote := nonempty data }),
  ("escape_char", fun data config => { config with escapeChar := nonempty data }),
  ("replacement_char", fun data config => { config with replacementChar := nonempty data }),
  ("table_class",
    fun data config => { config with tableClass := ((nonempty data).map Value.display).getD "" }),
  ("constant_prefix", fun data config => { config with constantPrefix := data }),
  ("displayed_column", fun data config => { config with displayedColumn := data }),
  ("link_role", fun data config => { config with linkRole := optional data }),
  ("link_class_role", fun data config => { config with linkClassRole := optional data }),
  ("html_prefix_role", fun data config => { config with htmlPrefixRole := optional data }),
  ("row_class_role", fun data config => { config with rowClassRole := optional data }),
  ("cell_class_role", fun data config => { config with cellClassRole := optional data }),
  ("max_depth", fun data config => { config with maxDepth := data })]

def isField (name : String) : Bool := fields.has name

def set (config : Config) (name : String) (data : Value) : Config :=
  match fields.value? name with
  | some assign => assign data config
  | none => config

def setAll (config : Config) (options : List (String × Value)) : Config :=
  options.foldl (fun config (name, data) => config.set name data) config

def ofFields (options : List (String × Value)) : Except Failure Config :=
  if options.all fun (name, _) => isField name then .ok (({} : Config).setAll options)
  else .error .wrongType

end Config

end TreeTable

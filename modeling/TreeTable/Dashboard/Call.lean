import TreeTable.Content
import TreeTable.Source.Edit

namespace TreeTable

inductive Call where
  | appendRow (path : Option (List Value)) (values roles : Value)
  | removeRow (path : Option (List Value)) (row : Value)
  | setValue (path : List Value) (column value : Value)
  | setHeaders (headers : Value)
  | setCell (row column value : Value)
  | cellNamed (row column : Value)
  | clear
  | rowCount (path : List Value)
  | columnCount (path : List Value)
  | cellText (path : List Value) (row column : Value) (role : Option Value)
  | headerText (axis : Axis) (index : Value) (role : Option Value)
  | notify
  | subscribe (bell : String) (script : List (Bool × String))
  | unsubscribe (bell : String)

inductive Reply where
  | done
  | text (text : Option String)
  | value (value : Value)
  | number (number : Int)
  | row (item : Item)
  | names (names : List String)

namespace Content

def below {α : Type} (content : Content) (path : List Value)
    (ask : {ν : Type} → Source ν → Option ν → Except Failure α) : Except Failure α :=
  content.query fun source => do ask source (← source.resolve path)

def textOf (content : Content) (path : List Value) (row column : Value) (role : Option Value) :
    Except Failure (Option String) :=
  content.below path fun source parent => do source.text (← source.cell row column parent) role

def isCyclic (faults : Option Faults) : Bool := (faults.map Faults.cyclic).getD false

def perform (content : Content) (call : Call) : Except Failure (Reply × Option Content) :=
  match content, call with
  | .tree data faults, .appendRow path values roles => do
    let (item, data) ← data.appendRow (← data.locateLevel (isCyclic faults) path) values roles
    return (.row item, some (.tree data faults))
  | .tree data faults, .removeRow path row => do
    let (item, data) ← data.removeRow (← data.locateLevel (isCyclic faults) path) row
    return (.row item, some (.tree data faults))
  | .tree data faults, .setValue path column value => do
    let data ← data.setValue (← data.locate (isCyclic faults) path) column value
    return (.done, some (.tree data faults))
  | .tree data faults, .setHeaders headers => do
    return (.done, some (.tree (← data.setHeaders headers) faults))
  | .tree data faults, .clear => .ok (.done, some (.tree data.clear faults))
  | .matrix data, .setCell row column value => do
    return (.done, some (.matrix (← data.set row column value)))
  | .matrix data, .cellNamed row column => do
    return (.text (← data.named row column), none)
  | .matrix _, .clear => .ok (.done, some (.matrix {}))
  | content, .rowCount path => do
    return (.number (← content.below path fun source parent => source.rowCount parent), none)
  | content, .columnCount path => do
    return (.number (← content.below path fun source parent => source.columnCount parent), none)
  | content, .cellText path row column role => do
    return (.text (← content.textOf path row column role), none)
  | content, .headerText axis index role => do
    return (.value (← content.query fun source => source.header axis index role), none)
  | content, .notify => .ok (.done, some content)
  | _, .subscribe .. | _, .unsubscribe _ => .ok (.done, none)
  | _, _ => .error .noSuchField

def afterFailure (content : Content) (call : Call) : Content :=
  match content, call with
  | .matrix data, .setCell row column _ => .matrix (data.withNames row column)
  | content, _ => content

end Content

end TreeTable

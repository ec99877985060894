import TreeTable.Source

namespace TreeTable

def place? (length : Nat) (position : Int) : Option Nat :=
  let index := if position < 0 then length + position else position
  if 0 ≤ index ∧ index < length then some index.toNat else none

def pick? {α : Type} (list : List α) (position : Int) : Option α :=
  if 0 ≤ position then list[position.toNat]?
  else (place? list.length position).bind fun index => list[index]?

def Value.lookIn {α : Type} (position : Value) (elements : Array α) :
    Except Failure (Option α) := do
  if ← position.isWithin elements.size then return elements[(← position.asIndex).toNat]?
  else return none

/-- Named attributes. A list gives one value for each column or header, anything else one value for
all of them. -/
abbrev Roles := Entries Value Value

namespace Roles

def entryAt (data position : Value) : Except Failure (Option String) :=
  match data with
  | .null => .ok none
  | .list items => do
    match ← position.lookIn items.toArray with
    | none | some .null => return none
    | some value => return some value.display
  | value => .ok (some value.display)

def text (roles : Roles) (role position : Value) : Except Failure (Option String) :=
  if role.canBeKey then
    match Entries.value? roles role with
    | none => .ok none
    | some data => entryAt data position
  else .error .wrongType

end Roles

/-- One row of a tree and all rows below it. Rows and their values are taken to stand at one place
each: a row or a list of values that two places share would change at both. -/
structure Item where
  values : Array Value
  children : List Item
  roles : Roles

namespace Item

def text? (item : Item) (column : Value) : Except Failure (Option String) := do
  return (← column.lookIn item.values).map Value.cellText

mutual

def describe : Item → String
  | ⟨values, children, roles⟩ =>
    "TreeItem(values=" ++ (Value.list values.toList).inner
      ++ ", children=[" ++ ", ".intercalate (describeAll children)
      ++ "], roles=\x7b" ++ ", ".intercalate (describeRoles roles) ++ "\x7d)"

def describeAll : List Item → List String
  | [] => []
  | item :: rest => describe item :: describeAll rest

def describeRoles : Roles → List String
  | [] => []
  | (role, value) :: rest => (role.inner ++ ": " ++ value.inner) :: describeRoles rest

end

def chain (number : Nat) : (count : Nat) → List Item
  | 0 => []
  | count + 1 => [⟨#[.text ("n" ++ toString number)], chain (number + 1) count, []⟩]

end Item

end TreeTable

import TreeTable.Value.Demand
import TreeTable.Text.Summary

namespace TreeTable

structure Registered (α : Type) where
  title : String
  description : Value := .null
  make : α

def Registered.summary {α : Type} (entry : Registered α) : Except Failure String :=
  if entry.description.isEmpty then .ok ""
  else
    match entry.description with
    | .text description => .ok (TreeTable.summary description)
    | .broken points => .ok (TreeTable.summary (Text.broken points).shown)
    | _ => .error .noSuchField

structure Registry (α : Type) where
  name : String := "registry"
  entries : Entries Value (Registered α) := []

namespace Registry

variable {α : Type}

def find (registry : Registry α) (key : Value) : Except Failure (Option (Registered α)) :=
  if key.canBeKey then .ok (registry.entries.value? key) else .error .wrongType

def register (registry : Registry α) (key : Value) (entry : Registered α) :
    Except Failure (Registry α) := do
  if entry.title.contains '\x00' then throw .brokenTitle
  match ← registry.find key with
  | some owner => throw (.keyTaken registry.name key.display owner.title)
  | none => return { registry with entries := registry.entries.put key entry }

def keys (registry : Registry α) : List Value := Entries.keys registry.entries

def get (registry : Registry α) (key : Value) : Except Failure (Registered α) := do
  match ← registry.find key with
  | some entry => return entry
  | none =>
    let known ← registry.keys.mapM Value.asText
    throw (.unknownKey registry.name key.display (known.mergeSort (· ≤ ·)))

def reservedNames : List String := ["self", "key"]

def create (registry : Registry α) (key : Value) (arguments : List (String × Value)) :
    Except Failure (Registered α) :=
  if arguments.any fun (name, _) => reservedNames.contains name then .error .wrongType
  else registry.get key

def has (registry : Registry α) (key : Value) : Except Failure Bool :=
  Option.isSome <$> registry.find key

def size (registry : Registry α) : Nat := registry.entries.length

def summaries (registry : Registry α) : Except Failure (Entries Value String) :=
  registry.entries.mapM fun (key, entry) => do return (key, ← entry.summary)

end Registry

end TreeTable

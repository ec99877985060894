import TreeTable.Content
import TreeTable.Page

/-!
Dashboards: sources, the views that show them, and the pages that views stand on. All views of a
dashboard share one loop, whose queue holds the renders to come.
-/

namespace TreeTable

/-- A kept object: the name that it was given, and how many objects had the name before. -/
structure Handle where
  name : String
  edition : Nat
deriving DecidableEq, Repr

abbrev Store (α : Type) := Entries Handle α

namespace Store

variable {α : Type}

def editions (store : Store α) (name : String) : Nat :=
  store.countP fun (handle, _) => handle.name == name

def latest? (store : Store α) (name : String) : Option Handle :=
  match editions store name with
  | 0 => none
  | edition + 1 => some ⟨name, edition⟩

def currentName (store : Store α) (handle : Handle) : Option String :=
  if latest? store handle.name = some handle then some handle.name else none

def next (store : Store α) (name : String) : Handle := ⟨name, editions store name⟩

def latest (store : Store α) : List (String × α) :=
  (store.map fun (handle, _) => handle.name).eraseDups.filterMap fun name => do
    return (name, ← Entries.value? store (← latest? store name))

def names (store : Store α) : List String :=
  ((store.map fun (handle, _) => handle.name).mergeSort (· ≤ ·)).eraseReps

end Store

inductive Listener where
  | view (view : Handle)
  | bell (name : String)
deriving DecidableEq, Repr

structure Observed where
  content : Option Content
  listeners : Array Listener := #[]
  scripts : Entries String (List (Bool × String)) := []

inductive ConfigRef where
  | shared (config : Handle)
  | own (config : Config)

structure Wishes where
  names : Nat → List String

instance : Coe String Wishes := ⟨fun name => ⟨fun _ => [name]⟩⟩

/-- What a delegate does besides giving texts: at so many more cell texts it requests updates of
views. What it requests with a header is taken to be requested with the cell text after it, and not
at all if none follows. -/
structure Hook where
  wishes : Wishes
  left : Nat

namespace Hook

def wishesAt (hook : Hook) (number : Nat) : List String :=
  if number < hook.left then hook.wishes.names (hook.left - (number + 1)) else []

def wishesFor (hook : Hook) (asked : Nat) : List String :=
  (List.range asked).flatMap hook.wishesAt

def spend (hook : Hook) (asked : Nat) : Hook := { hook with left := hook.left - asked }

end Hook

structure Presenter where
  format : Format
  config : ConfigRef
  delegate : Delegate
  hook : Option Hook := none

def Presenter.spend (presenter : Presenter) (asked : Nat) : Presenter :=
  { presenter with hook := presenter.hook.map fun hook => hook.spend asked }

structure View where
  presenter : Handle
  source : Option Handle := none
  pending : Bool := false
  text : Value := .text ""
  renders : Nat := 0

structure PageState where
  template : String
  title : Value := .text ""
  views : List Handle := []

inductive Loop where
  | absent
  | halting
  | forgiving
deriving DecidableEq, Repr

inductive Notice where
  | scheduled (title : String)
  | attached (source : Option Content)
  | rendered (length : Nat) (title : String)
  | failed (title : String) (failure : Failure)
  | capReached (cap : Value)

namespace Notice

def isWarning : Notice → Bool
  | .failed .. => true
  | _ => false

def level (notice : Notice) : String := if notice.isWarning then "WARNING" else "DEBUG"

def logger : Notice → String
  | .capReached _ => "textview.traversal"
  | _ => "textview.view"

def message : Notice → String
  | .scheduled title => "render scheduled for " ++ title
  | .attached none => "source attached: None"
  | .attached (some content) =>
    "source attached: <textview.model." ++ content.title ++ " object at 0x0>"
  | .rendered length title =>
    "rendered " ++ toString length ++ " characters with " ++ title
  | .failed title failure =>
    "render with " ++ title ++ " failed, keeping previous text: " ++ failure.message
  | .capReached cap => "row cap " ++ cap.display ++ " reached, truncating"

end Notice

structure Dashboard where
  loop : Loop := .halting
  language : Page.Language := .verbatim
  configs : Store Config := []
  presenters : Store Presenter := []
  sources : Store Observed := []
  views : Store View := []
  pages : Store PageState := []
  queue : List Handle := []
  log : List Notice := []
  rung : Array String := #[]

end TreeTable

import Mathlib.Data.List.Forall2
import TreeTable.Proofs.Walk.TreeScript

namespace TreeTable

/-- How many columns a level has, and the level below each of its rows. -/
inductive Shape where
  | mk (columns : Nat) (rows : List Shape)

namespace Item

mutual

def shape (tree : Tree) : Item → Shape
  | ⟨_, children, _⟩ => ⟨tree.width children, shapes tree children⟩

def shapes (tree : Tree) : List Item → List Shape
  | [] => []
  | item :: rest => shape tree item :: shapes tree rest

end

theorem shapes_eq_map (tree : Tree) (items : List Item) :
    shapes tree items = items.map (shape tree) := by
  induction items with
  | nil => rfl
  | cons item rest ih => rw [shapes, ih, List.map_cons]

end Item

namespace Tree

def shapeUnder (tree : Tree) (parent : Option TreeCell) : Shape :=
  let rows := tree.level false parent
  ⟨tree.width rows, Item.shapes tree rows⟩

def shape (tree : Tree) : Shape := tree.shapeUnder none

theorem shapeUnder_some (tree : Tree) (cell : TreeCell) :
    tree.shapeUnder (some cell) = cell.item.shape tree := by
  obtain ⟨⟨values, children, roles⟩, column⟩ := cell
  rfl

end Tree

namespace Walk

variable {left right : Tree} {parent parent' : Option TreeCell}

structure SameLevel (left right : Tree) (parent parent' : Option TreeCell) : Prop where
  width : left.width (left.level false parent) = right.width (right.level false parent')
  below : (left.level false parent).map (Item.shape left) =
    (right.level false parent').map (Item.shape right)

theorem sameLevel_of_shapeUnder (same : left.shapeUnder parent = right.shapeUnder parent') :
    SameLevel left right parent parent' := by
  obtain ⟨width, below⟩ := Shape.mk.inj same
  rw [Item.shapes_eq_map, Item.shapes_eq_map] at below
  exact ⟨width, below⟩

theorem SameLevel.length (same : SameLevel left right parent parent') :
    (left.level false parent).length = (right.level false parent').length := by
  simpa using congrArg List.length same.below

theorem SameLevel.row (same : SameLevel left right parent parent') {row : Nat} {item : Item}
    (found : (left.level false parent)[row]? = some item) :
    ∃ item', (right.level false parent')[row]? = some item' ∧
      SameLevel left right (some ⟨item, .int 0⟩) (some ⟨item', .int 0⟩) := by
  have below := congrArg (fun shapes => shapes[row]?) same.below
  simp only [List.getElem?_map, found, Option.map_some] at below
  obtain ⟨item', found', shaped⟩ := Option.map_eq_some_iff.mp below.symm
  refine ⟨item', found', sameLevel_of_shapeUnder ?_⟩
  rw [Tree.shapeUnder_some, Tree.shapeUnder_some]
  exact shaped.symm

structure Row.Alike (left right : Tree) (row row' : Row TreeCell) : Prop where
  number : row.number = row'.number
  depth : row.depth = row'.depth
  level : SameLevel left right row.parent row'.parent
  stands : row.number < (left.level false row.parent).length

theorem Row.Alike.found {row row' : Row TreeCell} (alike : row.Alike left right row') :
    ∃ item item', (left.level false row.parent)[row.number]? = some item ∧
      (right.level false row'.parent)[row'.number]? = some item' := by
  have found := List.getElem?_eq_getElem alike.stands
  obtain ⟨item', found', -⟩ := alike.level.row found
  exact ⟨_, item', found, alike.number ▸ found'⟩

inductive Act.Alike (left right : Tree) : Act TreeCell → Act TreeCell → Prop where
  | enter {parent parent' : Option TreeCell} (depth : Int) (rows : Nat) :
    Alike left right (.enter parent depth rows) (.enter parent' depth rows)
  | row {row row' : Row TreeCell} (alike : row.Alike left right row') (columns : Nat) :
    Alike left right (.row row columns) (.row row' columns)
  | close (row row' : Row TreeCell) : Alike left right (.close row) (.close row')
  | leave {parent parent' : Option TreeCell} (depth : Int) (rows : Nat) :
    Alike left right (.leave parent depth rows) (.leave parent' depth rows)

structure Script.Alike {α : Type} (left right : Tree) (script script' : Script TreeCell α) :
    Prop where
  acts : List.Forall₂ (Act.Alike left right) script.acts script'.acts
  ends : script.ends = script'.ends

namespace Script.Alike

variable {α β : Type}

theorem pure (answer : α) :
    Alike left right (Pure.pure answer : Script TreeCell α) (Pure.pure answer) := ⟨.nil, rfl⟩

theorem act {done done' : Act TreeCell} (alike : done.Alike left right done') :
    Alike left right (Script.act done) (Script.act done') := ⟨.cons alike .nil, rfl⟩

theorem bind {first first' : Script TreeCell α} {next next' : α → Script TreeCell β}
    (alike : Alike left right first first')
    (alike' : ∀ answer, Alike left right (next answer) (next' answer)) :
    Alike left right (first >>= next) (first' >>= next') := by
  cases ends : first.ends with
  | error failure =>
    rw [Script.bind_of_error ends, Script.bind_of_error (alike.ends.symm.trans ends)]
    exact ⟨alike.acts, rfl⟩
  | ok answer =>
    rw [Script.bind_of_ok ends, Script.bind_of_ok (alike.ends.symm.trans ends)]
    exact ⟨List.rel_append alike.acts (alike' answer).acts, (alike' answer).ends⟩

end Script.Alike

theorem rowsScript_alike {descend descend' : Nat → Option Budget → Script TreeCell (Option Budget)}
    (same : SameLevel left right parent parent') (columns : Nat) (depth : Int)
    (descends : ∀ row, row < (left.level false parent).length → ∀ budget,
      Script.Alike left right (descend row budget) (descend' row budget))
    (row rows : Nat) (within : row + rows = (left.level false parent).length)
    (budget : Option Budget) :
    Script.Alike left right (rowsScript descend parent columns depth row rows budget)
      (rowsScript descend' parent' columns depth row rows budget) := by
  -- on the rows to come; whether one is admitted is up to the budget, which is the same in both
  induction rows generalizing row budget with
  | zero => exact .pure budget
  | succ rows ih =>
    have stands : row < (left.level false parent).length := by omega
    rw [rowsScript, rowsScript]
    split
    · have alike : Row.Alike left right ⟨parent, row, depth⟩ ⟨parent', row, depth⟩ :=
        ⟨rfl, rfl, same, stands⟩
      refine .bind (.act (.row alike columns)) fun _ => ?_
      refine .bind (descends row stands _) fun budget => ?_
      exact .bind (.act (.close _ _)) fun _ => ih (row + 1) (by omega) budget
    · exact .pure _

theorem levelScript_alike (recursive : Bool) (levels : Nat) (depth : Int)
    (same : SameLevel left right parent parent') (budget : Option Budget) :
    Script.Alike left right (levelScript left.source recursive levels depth parent budget)
      (levelScript right.source recursive levels depth parent' budget) := by
  induction levels generalizing depth parent parent' budget with
  | zero => exact ⟨.nil, rfl⟩
  | succ levels ih =>
    rw [levelScript, levelScript, rows_eq, columns_eq, rows_eq, columns_eq, same.length, same.width,
      Script.ask_ok_bind, Script.ask_ok_bind, Script.ask_ok_bind, Script.ask_ok_bind]
    refine .bind (.act (.enter depth _)) fun _ => ?_
    refine .bind (rowsScript_alike same _ depth (fun row stands budget => ?_) 0 _
      (by rw [Nat.zero_add, same.length]) budget) fun budget => ?_
    · cases recursive with
      | false => exact .pure budget
      | true =>
        obtain ⟨item', found', below⟩ := same.row (List.getElem?_eq_getElem stands)
        rw [if_pos rfl, if_pos rfl, cell_eq parent (List.getElem?_eq_getElem stands),
          cell_eq parent' found', Script.ask_ok_bind, Script.ask_ok_bind]
        exact ih (depth + 1) below budget
    · exact .bind (.act (.leave depth _)) fun _ => .pure budget

theorem script_alike (same : left.shape = right.shape) (recursive : Bool) (deepest : Int)
    (budget : Option Budget) :
    Script.Alike left right (script left.source none 0 recursive deepest budget)
      (script right.source none 0 recursive deepest budget) :=
  levelScript_alike recursive _ 0 (sameLevel_of_shapeUnder same) budget

theorem rows_alike {α : Type} {script script' : Script TreeCell α}
    (alike : script.Alike left right script') :
    List.Forall₂ (Row.Alike left right) script.rows script'.rows := by
  refine List.rel_filterMap (fun act act' alike => ?_) alike.acts
  cases alike with
  | row alike columns => exact .some alike
  | enter | close | leave => exact .none

end Walk

end TreeTable

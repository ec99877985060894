import TreeTable.Proofs.Walk.TreeScript

namespace TreeTable

namespace Item

mutual

def actsBelow (tree : Tree) (depth : Int) : Item → List (Walk.Act TreeCell)
  | ⟨values, children, roles⟩ =>
    let parent : TreeCell := ⟨⟨values, children, roles⟩, .int 0⟩
    .enter (some parent) depth children.length ::
      (actsOf tree (some parent) (tree.width children) 0 depth children ++
        [.leave (some parent) depth children.length])

def actsOf (tree : Tree) (parent : Option TreeCell) (columns row : Nat) (depth : Int) :
    List Item → List (Walk.Act TreeCell)
  | [] => []
  | item :: rest =>
    .row ⟨parent, row, depth⟩ columns :: (actsBelow tree (depth + 1) item ++
      (.close ⟨parent, row, depth⟩ :: actsOf tree parent columns (row + 1) depth rest))

end

end Item

def Tree.acts (tree : Tree) (parent : Option TreeCell) (depth : Int) : List (Walk.Act TreeCell) :=
  let rows := tree.level false parent
  .enter parent depth rows.length ::
    (Item.actsOf tree parent (tree.width rows) 0 depth rows ++ [.leave parent depth rows.length])

theorem Item.actsBelow_eq (tree : Tree) (depth : Int) (item : Item) :
    item.actsBelow tree depth = tree.acts (some ⟨item, .int 0⟩) depth := by
  obtain ⟨values, children, roles⟩ := item
  rw [actsBelow]
  rfl

namespace Walk

variable {tree : Tree}

theorem rows_acts {descend : Nat → Option Budget → Script TreeCell (Option Budget)}
    (parent : Option TreeCell) (columns : Nat) (depth : Int)
    (descends : ∀ row item, (tree.level false parent)[row]? = some item → ∀ left,
      (descend row none).ends = .ok left →
        left = none ∧ (descend row none).acts = item.actsBelow tree (depth + 1))
    (row : Nat) (items : List Item) (suffix : (tree.level false parent).drop row = items)
    {left : Option Budget}
    (ends : (rowsScript descend parent columns depth row items.length none).ends = .ok left) :
    left = none ∧ (rowsScript descend parent columns depth row items.length none).acts =
      Item.actsOf tree parent columns row depth items := by
  -- on the rows to come; without a budget every row is admitted
  induction items generalizing row with
  | nil => exact ⟨(Except.ok.inj ends).symm, rfl⟩
  | cons item rest ih =>
    obtain ⟨found, suffix'⟩ := of_drop_eq_cons suffix
    have fits : room none 1 = 1 := rfl
    rw [List.length_cons, rowsScript, if_pos fits] at ends ⊢
    obtain ⟨_, -, ends, shown⟩ := Script.bind_ends_ok ends
    obtain ⟨below, descended, ends, under⟩ := Script.bind_ends_ok ends
    obtain ⟨rfl, acts⟩ := descends row item found below descended
    obtain ⟨_, -, ends, closed⟩ := Script.bind_ends_ok ends
    obtain ⟨rfl, others⟩ := ih (row + 1) suffix' ends
    have unspent : settle none 1 = none := rfl
    refine ⟨rfl, ?_⟩
    rw [shown, under, closed, unspent, acts, others, Item.actsOf]
    rfl

theorem level_acts (levels : Nat) (depth : Int) (parent : Option TreeCell)
    {left : Option Budget}
    (ends : (levelScript tree.source true levels depth parent none).ends = .ok left) :
    left = none ∧ (levelScript tree.source true levels depth parent none).acts =
      tree.acts parent depth := by
  induction levels generalizing depth parent left with
  | zero => cases ends
  | succ levels ih =>
    rw [levelScript, rows_eq, columns_eq, Script.ask_ok_bind, Script.ask_ok_bind] at ends ⊢
    obtain ⟨_, -, ends, entered⟩ := Script.bind_ends_ok ends
    obtain ⟨middle, inside, ends, walked⟩ := Script.bind_ends_ok ends
    obtain ⟨rfl, acts⟩ := rows_acts parent _ depth (fun row item found left descended => by
      rw [if_pos rfl, cell_eq parent found, Script.ask_ok_bind] at descended ⊢
      rw [Item.actsBelow_eq]
      exact ih (depth + 1) (some ⟨item, .int 0⟩) descended) 0 (tree.level false parent)
        List.drop_zero inside
    refine ⟨(Except.ok.inj ends).symm, ?_⟩
    rw [entered, walked, acts]
    rfl

theorem script_acts {deepest : Int} {left : Option Budget}
    (ends : (script tree.source none 0 true deepest none).ends = .ok left) :
    (script tree.source none 0 true deepest none).acts = tree.acts none 0 :=
  (level_acts _ 0 none ends).2

end Walk

end TreeTable

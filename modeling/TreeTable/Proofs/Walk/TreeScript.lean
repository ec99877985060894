import TreeTable.Proofs.Walk.Preorder
import TreeTable.Proofs.Walk.Script

namespace TreeTable

def RowPlace.asRow (place : RowPlace) : Walk.Row TreeCell := ⟨place.parent, place.row, place.depth⟩

namespace Walk

def upTo {α : Type} (stops : α → Bool) : List α → List α
  | [] => []
  | first :: rest => if stops first then [first] else first :: upTo stops rest

section

variable {α : Type} {stops : α → Bool}

theorem upTo_append (first second : List α) :
    upTo stops (first ++ second) =
      if first.any stops then upTo stops first else first ++ upTo stops second := by
  induction first with
  | nil => rfl
  | cons head rest ih =>
    cases stopped : stops head with
    | true => simp [upTo, stopped]
    | false =>
      simp only [List.cons_append, upTo, stopped, ih, List.any_cons, Bool.false_or,
        Bool.false_eq_true, if_false]
      split <;> rfl

theorem upTo_of_any_eq_false {list : List α} (goes : list.any stops = false) :
    upTo stops list = list := by
  have all : upTo stops (list ++ []) =
      if list.any stops then upTo stops list else list ++ upTo stops [] := upTo_append list []
  simpa [goes, upTo] using all

end

/-- A script that asks a budget for places in turn: it goes through those that there is room for, as
far as the first one that stops it. -/
structure Covers (stops : RowPlace → Bool) (budget : Option Budget)
    (told : Script TreeCell (Option Budget)) (places : List RowPlace) : Prop where
  rows : told.rows = (upTo stops (places.take (room budget places.length))).map RowPlace.asRow
  ends : told.ends =
    if (places.take (room budget places.length)).any stops then .error .tooDeep
    else .ok (settle budget places.length)

namespace Covers

variable {stops : RowPlace → Bool} {budget : Option Budget}
  {told : Script TreeCell (Option Budget)} {place : RowPlace} {places places' : List RowPlace}

theorem nil : Covers stops budget (pure budget) [] where
  rows := by
    rw [List.take_nil]
    rfl
  ends := by
    rw [List.take_nil, List.length_nil, settle_zero]
    rfl

theorem trans {next : Option Budget → Script TreeCell (Option Budget)}
    (covers : Covers stops budget told places)
    (covers' : Covers stops (settle budget places.length) (next (settle budget places.length))
      places') : Covers stops budget (told >>= next) (places ++ places') := by
  obtain ⟨rows, ends⟩ := covers
  obtain ⟨rows', ends'⟩ := covers'
  cases stopped : (places.take (room budget places.length)).any stops with
  | true =>
    rw [stopped, if_pos rfl] at ends
    rw [Script.bind_of_error ends]
    constructor
    · rw [take_append_room, upTo_append, stopped, if_pos rfl]
      exact rows
    · rw [take_append_room, List.any_append, stopped, Bool.true_or, if_pos rfl]
  | false =>
    rw [stopped, if_neg Bool.false_ne_true] at ends
    rw [upTo_of_any_eq_false stopped] at rows
    rw [Script.bind_of_ok ends]
    constructor
    · rw [take_append_room, upTo_append, stopped, if_neg Bool.false_ne_true, List.map_append,
        ← rows, ← rows']
      exact List.filterMap_append
    · rw [take_append_room, List.any_append, stopped, Bool.false_or, List.length_append,
        ← settle_settle]
      exact ends'

theorem aside {act : Act TreeCell} (isRow : act.row? = none)
    (covers : Covers stops budget told places) :
    Covers stops budget (Script.act act >>= fun _ => told) places where
  rows := (List.filterMap_cons_none isRow).trans covers.rows
  ends := covers.ends

theorem closing {act : Act TreeCell} (isRow : act.row? = none)
    (covers : Covers stops budget told places) :
    Covers stops budget (told >>= fun left => Script.act act >>= fun _ => pure left) places := by
  have closed : Covers stops budget (told >>= fun left => Script.act act >>= fun _ => pure left)
      (places ++ []) := covers.trans (.aside isRow .nil)
  rwa [List.append_nil] at closed

theorem take_cons_room (fits : room budget 1 = 1) (place : RowPlace) (places : List RowPlace) :
    (place :: places).take (room budget (place :: places).length) =
      place :: places.take (room (settle budget 1) places.length) := by
  have parts := take_append_room budget [place] places
  rwa [List.length_singleton, fits] at parts

theorem row (fits : room budget 1 = 1) (goes : stops place = false) (columns : Nat)
    (covers : Covers stops (settle budget 1) told places) :
    Covers stops budget (Script.act (.row place.asRow columns) >>= fun _ => told)
      (place :: places) where
  rows := by
    rw [take_cons_room fits, upTo, goes, if_neg Bool.false_ne_true, List.map_cons, ← covers.rows]
    rfl
  ends := by
    rw [take_cons_room fits, List.any_cons, goes, Bool.false_or, List.length_cons, Nat.add_comm,
      ← settle_settle]
    exact covers.ends

theorem deepRow (fits : room budget 1 = 1) (stopped : stops place = true) (columns : Nat)
    (told : Script TreeCell (Option Budget)) (fails : told = Script.ask (.error .tooDeep)) :
    Covers stops budget (Script.act (.row place.asRow columns) >>= fun _ => told)
      (place :: places) where
  rows := by
    rw [take_cons_room fits, upTo, stopped, if_pos rfl, fails]
    rfl
  ends := by
    rw [take_cons_room fits, List.any_cons, stopped, Bool.true_or, if_pos rfl, fails]
    rfl

theorem full (full : room budget 1 = 0) :
    Covers stops budget (pure (settle budget 1)) (place :: places) := by
  have less : room budget 1 < 1 := by omega
  have nothing : room budget (place :: places).length = 0 := by
    rw [List.length_cons, Nat.add_comm, room_add, full, room_settle_of_lt less]
  constructor
  · rw [nothing]
    rfl
  · rw [nothing, List.length_cons, Nat.add_comm, ← settle_settle, settle_settle_of_lt less]
    rfl

end Covers

variable {tree : Tree} {recursive : Bool} {deepest : Int}

def isDeep (recursive : Bool) (deepest : Int) (place : RowPlace) : Bool :=
  recursive && decide (deepest ≤ place.depth)

theorem rows_covers {descend : Nat → Option Budget → Script TreeCell (Option Budget)}
    (parent : Option TreeCell) (columns : Nat) (depth : Int)
    (descends : ∀ row item, (tree.level false parent)[row]? = some item → ∀ budget,
      if isDeep recursive deepest ⟨parent, row, depth⟩ then
        descend row budget = Script.ask (.error .tooDeep)
      else Covers (isDeep recursive deepest) budget (descend row budget)
        (if recursive then item.placesBelow (depth + 1) else []))
    (row : Nat) (items : List Item) (suffix : (tree.level false parent).drop row = items)
    (budget : Option Budget) :
    Covers (isDeep recursive deepest) budget
      (rowsScript descend parent columns depth row items.length budget)
      (Item.placesOf recursive parent row depth items) := by
  -- on the rows to come; the budget varies, as each row leaves another one to the next
  induction items generalizing row budget with
  | nil => exact .nil
  | cons item rest ih =>
    obtain ⟨found, rest⟩ := of_drop_eq_cons suffix
    have descended := descends row item found (settle budget 1)
    rw [List.length_cons, rowsScript, Item.placesOf]
    by_cases fits : room budget 1 = 1
    · rw [if_pos fits]
      cases deep : isDeep recursive deepest ⟨parent, row, depth⟩ with
      | true =>
        rw [if_pos deep] at descended
        refine .deepRow fits deep columns _ ?_
        rw [descended]
        rfl
      | false =>
        rw [if_neg (ne_true_of_eq_false deep)] at descended
        exact .row fits deep columns (descended.trans (.aside rfl (ih (row + 1) rest _)))
    · have full : room budget 1 = 0 := by
        have := room_le budget 1
        omega
      rw [if_neg fits]
      exact .full full

theorem level_covers (levels : Nat) (depth : Int) (parent : Option TreeCell)
    (reaches : depth + levels = deepest) (budget : Option Budget) :
    Covers (isDeep recursive deepest) budget
      (levelScript tree.source recursive (levels + 1) depth parent budget)
      (tree.preorder recursive parent depth) := by
  induction levels generalizing depth parent budget with
  | zero =>
    -- the deepest level: a recursive walk ends at its first row
    rw [levelScript, rows_eq, columns_eq, Script.ask_ok_bind, Script.ask_ok_bind]
    refine .aside rfl (.closing rfl (rows_covers parent _ depth ?_ 0 _ rfl budget))
    intro row item found budget
    cases recursive with
    | false => exact .nil
    | true =>
      have deep : isDeep true deepest ⟨parent, row, depth⟩ = true := by
        simp [isDeep, ← reaches]
      rw [if_pos deep, if_pos rfl, cell_eq parent found, Script.ask_ok_bind]
      rfl
  | succ levels ih =>
    rw [levelScript, rows_eq, columns_eq, Script.ask_ok_bind, Script.ask_ok_bind]
    refine .aside rfl (.closing rfl (rows_covers parent _ depth ?_ 0 _ rfl budget))
    intro row item found budget
    have goes : isDeep recursive deepest ⟨parent, row, depth⟩ = false := by
      simp only [isDeep, Bool.and_eq_false_iff, decide_eq_false_iff_not]
      omega
    rw [if_neg (ne_true_of_eq_false goes)]
    cases recursive with
    | false => exact .nil
    | true =>
      rw [if_pos rfl, if_pos rfl, cell_eq parent found, Script.ask_ok_bind, Item.placesBelow_eq]
      exact ih (depth + 1) (some ⟨item, .int 0⟩) (by omega) budget

theorem script_covers (tree : Tree) (parent : Option TreeCell) {depth maxDepth : Int}
    (enters : depth ≤ maxDepth) (recursive : Bool) (budget : Option Budget) :
    Covers (isDeep recursive maxDepth) budget
      (script tree.source parent depth recursive maxDepth budget)
      (tree.preorder recursive parent depth) := by
  obtain ⟨levels, reaches⟩ := Int.le.dest enters
  have count : (maxDepth + 1 - depth).toNat = levels + 1 := by omega
  rw [script, count]
  exact level_covers levels depth parent reaches budget

theorem script_of_lt {ν : Type} (source : Source ν) (parent : Option ν) {depth maxDepth : Int}
    (below : maxDepth < depth) (recursive : Bool) (budget : Option Budget) :
    script source parent depth recursive maxDepth budget = Script.ask (.error .tooDeep) := by
  have outside : (maxDepth + 1 - depth).toNat = 0 := by omega
  rw [script, outside, levelScript]

theorem rowsUnder_eq_zero (tree : Tree) : tree.rowsUnder true none = 0 ↔ tree.items = [] := by
  cases items : tree.items with
  | nil => simp [Tree.rowsUnder, Tree.level, items, Item.rowsOf]
  | cons item rest =>
    simp only [Tree.rowsUnder, Tree.level, items, Item.rowsOf, if_true, reduceCtorEq, iff_false]
    omega

theorem script_of_shallow (tree : Tree) {maxDepth : Int} {budget : Option Budget}
    (begins : 0 < room budget (tree.rowsUnder true none))
    (shallow : ∀ place ∈ (tree.preorder true none 0).take (room budget (tree.rowsUnder true none)),
      place.depth < maxDepth) :
    (script tree.source none 0 true maxDepth budget).rows =
        ((tree.preorder true none 0).take (room budget (tree.rowsUnder true none))).map
          RowPlace.asRow ∧
      (script tree.source none 0 true maxDepth budget).ends =
        .ok (settle budget (tree.rowsUnder true none)) := by
  have enters : 0 ≤ maxDepth := by
    have first : (⟨none, 0, 0⟩ : RowPlace) ∈
        (tree.preorder true none 0).take (room budget (tree.rowsUnder true none)) := by
      obtain ⟨more, count⟩ := Nat.exists_eq_add_one.mpr begins
      rw [count]
      cases items : tree.items with
      | nil =>
        have empty := (rowsUnder_eq_zero tree).mpr items
        have := room_le budget (tree.rowsUnder true none)
        omega
      | cons item rest => simp [Tree.preorder, Tree.level, items, Item.placesOf]
    exact Int.le_of_lt (shallow _ first)
  obtain ⟨rows, ends⟩ := script_covers tree none enters true budget
  rw [Tree.length_preorder] at rows ends
  have goes : ((tree.preorder true none 0).take (room budget (tree.rowsUnder true none))).any
      (isDeep true maxDepth) = false := by
    rw [List.any_eq_false]
    intro place among
    simpa [isDeep] using shallow place among
  rw [upTo_of_any_eq_false goes] at rows
  rw [goes, if_neg Bool.false_ne_true] at ends
  exact ⟨rows, ends⟩

theorem visited_tree {tree : Tree} {recursive : Bool} {maxDepth : Int}
    {rows : List (Row TreeCell)} (returns : visited tree.source recursive maxDepth = .ok rows) :
    rows = (tree.preorder recursive none 0).map RowPlace.asRow := by
  rw [visited_eq_script] at returns
  obtain ⟨left, ends, returns⟩ := bind_eq_ok.mp returns
  obtain rfl := Except.ok.inj returns
  rcases Int.lt_or_le maxDepth 0 with below | enters
  · rw [script_of_lt tree.source none below] at ends
    cases ends
  · obtain ⟨rows, ends'⟩ := script_covers tree none enters recursive none
    have all : (tree.preorder recursive none 0).take
        (room none (tree.preorder recursive none 0).length) = tree.preorder recursive none 0 :=
      List.take_length
    rw [all] at rows ends'
    cases stopped : (tree.preorder recursive none 0).any (isDeep recursive maxDepth) with
    | true =>
      rw [stopped, if_pos rfl, ends] at ends'
      cases ends'
    | false => rw [rows, upTo_of_any_eq_false stopped]

end Walk

end TreeTable

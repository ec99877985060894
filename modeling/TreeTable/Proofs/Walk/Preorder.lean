import TreeTable.Source.Tree
import TreeTable.Proofs.Outcome
import TreeTable.Proofs.Walk.Budget

/-!
Walks of trees: the rows come in pre-order, as many of them as the budget has room for, each with
all of its cells. The places that a walk comes to are told apart from the walk itself, from the
shape of the tree alone.
-/

namespace TreeTable

structure RowPlace where
  parent : Option TreeCell
  row : Nat
  depth : Int

namespace Item

mutual

def placesBelow (depth : Int) : Item → List RowPlace
  | ⟨values, children, roles⟩ =>
    placesOf true (some ⟨⟨values, children, roles⟩, .int 0⟩) 0 depth children

def placesOf (recursive : Bool) (parent : Option TreeCell) (row : Nat) (depth : Int) :
    List Item → List RowPlace
  | [] => []
  | item :: rest =>
    ⟨parent, row, depth⟩ :: ((if recursive then placesBelow (depth + 1) item else [])
      ++ placesOf recursive parent (row + 1) depth rest)

end

mutual

def rowsBelow : Item → Nat
  | ⟨_, children, _⟩ => rowsOf children

def rowsOf : List Item → Nat
  | [] => 0
  | item :: rest => 1 + rowsBelow item + rowsOf rest

end

theorem placesBelow_eq (depth : Int) (item : Item) :
    placesBelow depth item = placesOf true (some ⟨item, .int 0⟩) 0 depth item.children := by
  cases item
  rfl

mutual

theorem length_placesBelow (depth : Int) :
    (item : Item) → (placesBelow depth item).length = rowsBelow item
  | ⟨values, children, roles⟩ => by
    rw [placesBelow, length_placesOf, rowsBelow]

theorem length_placesOf (parent : Option TreeCell) (row : Nat) (depth : Int) :
    (items : List Item) → (placesOf true parent row depth items).length = rowsOf items
  | [] => rfl
  | item :: rest => by
    rw [placesOf, List.length_cons, List.length_append, if_pos rfl, length_placesBelow,
      length_placesOf, rowsOf]
    omega

end

theorem length_placesOf_flat (parent : Option TreeCell) (row : Nat) (depth : Int)
    (items : List Item) : (placesOf false parent row depth items).length = items.length := by
  induction items generalizing row with
  | nil => rfl
  | cons item rest ih => simp [placesOf, ih]

end Item

namespace Tree

/-- The places of the rows below a parent in pre-order: of all of them, or of its own rows only. -/
def preorder (tree : Tree) (recursive : Bool) (parent : Option TreeCell) (depth : Int) :
    List RowPlace :=
  Item.placesOf recursive parent 0 depth (tree.level false parent)

def rowsUnder (tree : Tree) (recursive : Bool) (parent : Option TreeCell) : Nat :=
  if recursive then Item.rowsOf (tree.level false parent) else (tree.level false parent).length

theorem length_preorder (tree : Tree) (recursive : Bool) (parent : Option TreeCell)
    (depth : Int) :
    (tree.preorder recursive parent depth).length = tree.rowsUnder recursive parent := by
  cases recursive with
  | false => exact Item.length_placesOf_flat parent 0 depth _
  | true => exact Item.length_placesOf parent 0 depth _

def rowEvents (tree : Tree) (place : RowPlace) : List (Event TreeCell) :=
  .beginRow place.parent place.row place.depth ::
    ((List.range (tree.width (tree.level false place.parent))).map fun column =>
      .cell place.parent place.row column place.depth) ++
    [.endRow place.parent place.row place.depth]

end Tree

namespace Event

def place? : Event TreeCell → Option RowPlace
  | .beginRow parent row depth => some ⟨parent, row, depth⟩
  | _ => none

def untilEnd {ν : Type} : List (Event ν) → List (Event ν)
  | [] => []
  | .endRow parent row depth :: _ => [.endRow parent row depth]
  | event :: rest => event :: untilEnd rest

def blocks {ν : Type} : List (Event ν) → List (List (Event ν))
  | [] => []
  | .beginRow parent row depth :: rest =>
    (.beginRow parent row depth :: untilEnd rest) :: blocks rest
  | _ :: rest => blocks rest

variable {ν : Type}

theorem untilEnd_cells (parent : Option ν) (row : Nat) (depth : Int) (columns : List Nat)
    (later : List (Event ν)) :
    untilEnd (columns.map (fun column => .cell parent row column depth) ++
        .endRow parent row depth :: later) =
      columns.map (fun column => .cell parent row column depth) ++ [.endRow parent row depth] := by
  induction columns with
  | nil => rfl
  | cons column rest ih => exact congrArg (List.cons _) ih

theorem blocks_cells (parent : Option ν) (row : Nat) (depth : Int) (columns : List Nat)
    (later : List (Event ν)) :
    blocks (columns.map (fun column => .cell parent row column depth) ++ later) = blocks later := by
  induction columns with
  | nil => rfl
  | cons column rest ih => exact ih

theorem blocks_rowEvents (tree : Tree) (place : RowPlace) (later : List (Event TreeCell)) :
    blocks (tree.rowEvents place ++ later) = tree.rowEvents place :: blocks later := by
  simp only [Tree.rowEvents, List.cons_append, List.append_assoc, blocks, untilEnd_cells,
    blocks_cells, List.nil_append]

theorem places_rowEvents (tree : Tree) (place : RowPlace) :
    (tree.rowEvents place).filterMap place? = [place] := by
  have cells : ((List.range (tree.width (tree.level false place.parent))).map fun column =>
      Event.cell place.parent place.row column place.depth).filterMap place? = [] := by
    simp [List.filterMap_map, Function.comp_def, place?]
  simp [Tree.rowEvents, cells, place?]

end Event

namespace Walk

variable {σ : Type} {tree : Tree} {visit : Event TreeCell → Step σ Unit}
  {before middle after : Progress σ}

def tell (visit : Event TreeCell → Step σ Unit) : List (Event TreeCell) → Step σ Unit
  | [] => pure ()
  | event :: rest => do
    visit event
    tell visit rest

theorem tell_append {first second : List (Event TreeCell)} {before middle after : σ}
    (begins : tell visit first before = .ok () middle)
    (ends : tell visit second middle = .ok () after) :
    tell visit (first ++ second) before = .ok () after := by
  induction first generalizing before with
  | nil =>
    obtain ⟨_, rfl⟩ := Step.pure_eq_ok.mp begins
    exact ends
  | cons event rest ih =>
    obtain ⟨_, between, visited, begins⟩ := Step.bind_eq_ok.mp begins
    exact Step.bind_eq_ok.mpr ⟨(), between, visited, ih begins⟩

theorem cells_eq_tell (parent : Option TreeCell) (row : Nat) (depth : Int) (column left : Nat) :
    cells visit parent row depth column left =
      tell visit ((List.range' column left).map fun column => .cell parent row column depth) := by
  induction left generalizing column with
  | zero => rfl
  | succ left ih => rw [cells, ih, List.range'_succ, List.map_cons, tell]

theorem tell_row {place : RowPlace} {before after : σ}
    (returns : (do
      visit (.beginRow place.parent place.row place.depth)
      cells visit place.parent place.row place.depth 0
        (tree.width (tree.level false place.parent))
      visit (.endRow place.parent place.row place.depth) : Step σ Unit) before = .ok () after) :
    tell visit (tree.rowEvents place) before = .ok () after := by
  obtain ⟨_, begun, begins, returns⟩ := Step.bind_eq_ok.mp returns
  obtain ⟨_, filled, fills, ends⟩ := Step.bind_eq_ok.mp returns
  rw [cells_eq_tell, ← List.range_eq_range'] at fills
  have begun : tell visit [.beginRow place.parent place.row place.depth] before = .ok () begun :=
    Step.bind_eq_ok.mpr ⟨(), _, begins, rfl⟩
  have ended : tell visit [.endRow place.parent place.row place.depth] filled = .ok () after :=
    Step.bind_eq_ok.mpr ⟨(), _, ends, rfl⟩
  exact tell_append (tell_append begun fills) ended

/-- A stretch of a walk through places: the visitor is told of the rows that the budget has room
for, in order and each in full, and the budget is asked for all of them. -/
structure Walked (tree : Tree) (visit : Event TreeCell → Step σ Unit) (places : List RowPlace)
    (before after : Progress σ) : Prop where
  settled : after.budget = settle before.budget places.length
  told : ∃ events, tell visit events before.kept = .ok () after.kept ∧
    events.filterMap Event.place? = places.take (room before.budget places.length) ∧
    ∀ later, Event.blocks (events ++ later) =
      (places.take (room before.budget places.length)).map tree.rowEvents ++ Event.blocks later

namespace Walked

theorem nil (before : Progress σ) : Walked tree visit [] before before where
  settled := (settle_zero before.budget).symm
  told := ⟨[], rfl, by simp, fun _ => by simp⟩

theorem trans {first second : List RowPlace} (begins : Walked tree visit first before middle)
    (ends : Walked tree visit second middle after) :
    Walked tree visit (first ++ second) before after := by
  obtain ⟨asked, events, told, rows, blocks⟩ := begins
  obtain ⟨asked', events', told', rows', blocks'⟩ := ends
  rw [asked] at asked' rows' blocks'
  refine ⟨?_, events ++ events', tell_append told told', ?_, fun later => ?_⟩
  · rw [asked', settle_settle, List.length_append]
  · rw [List.filterMap_append, rows, rows', take_append_room]
  · rw [List.append_assoc, blocks, blocks', take_append_room, List.map_append, List.append_assoc]

theorem aside {event : Event TreeCell} (place : event.place? = none)
    (visited : visiting (visit event) before = .ok () after) :
    Walked tree visit [] before after := by
  obtain ⟨visited, budget⟩ := visiting_eq_ok.mp visited
  refine ⟨budget.trans (settle_zero _).symm, [event], ?_, ?_, fun later => ?_⟩
  · exact Step.bind_eq_ok.mpr ⟨(), after.kept, visited, rfl⟩
  · simp [place]
  · cases event with
    | beginRow => contradiction
    | _ => simp [Event.blocks]

theorem row {place : RowPlace} (fits : room before.budget 1 = 1)
    (told : tell visit (tree.rowEvents place) before.kept = .ok () after.kept)
    (budget : after.budget = settle before.budget 1) : Walked tree visit [place] before after := by
  refine ⟨budget, tree.rowEvents place, told, ?_, fun later => ?_⟩
  · rw [List.length_singleton, fits]
    exact Event.places_rowEvents tree place
  · rw [List.length_singleton, fits]
    exact Event.blocks_rowEvents tree place later

theorem stopped {place : RowPlace} (full : room before.budget 1 = 0) (rest : List RowPlace) :
    Walked tree visit (place :: rest) before
      { before with budget := settle before.budget 1 } := by
  have less : room before.budget 1 < 1 := by omega
  have none : room before.budget (place :: rest).length = 0 := by
    rw [List.length_cons, Nat.add_comm, room_add, full, room_settle_of_lt less]
  refine ⟨?_, [], rfl, ?_, fun later => ?_⟩
  · rw [List.length_cons, Nat.add_comm, ← settle_settle, settle_settle_of_lt less]
  · rw [none]
    rfl
  · rw [none]
    rfl

end Walked

variable {recursive : Bool}

theorem cell_eq (parent : Option TreeCell) {row : Nat} {item : Item}
    (found : (tree.level false parent)[row]? = some item) {column : Value} :
    tree.source.cell (.int row) column parent = .ok ⟨item, column⟩ := by
  have picked : pick? (tree.level false parent) row = some item := by simpa [pick?] using found
  simp only [Tree.source, Tree.faultySource, Value.asIndex, bind, Except.bind, picked]
  rfl

theorem rows_eq (tree : Tree) (parent : Option TreeCell) :
    tree.source.rows parent = .ok (tree.level false parent).length := by
  cases parent <;> simp [Source.rows, Source.checked, Tree.source, Tree.faultySource, bind,
    Except.bind]

theorem columns_eq (tree : Tree) (parent : Option TreeCell) :
    tree.source.columns parent = .ok (tree.width (tree.level false parent)) := by
  cases parent <;> simp [Source.columns, Source.checked, Tree.source, Tree.faultySource, bind,
    Except.bind]

theorem of_drop_eq_cons {α : Type} {list rest : List α} {first : α} {place : Nat}
    (suffix : list.drop place = first :: rest) :
    list[place]? = some first ∧ list.drop (place + 1) = rest := by
  constructor
  · have head := congrArg (fun rest => rest[0]?) suffix
    simpa using head
  · rw [← List.drop_drop, suffix, List.drop_one, List.tail_cons]

theorem rows_walked {descend : Nat → Step (Progress σ) Unit} (parent : Option TreeCell)
    (depth : Int)
    (descends : ∀ row item, (tree.level false parent)[row]? = some item →
      ∀ before after, descend row before = .ok () after →
        Walked tree visit (if recursive then item.placesBelow (depth + 1) else []) before after)
    (row : Nat) (items : List Item) (suffix : (tree.level false parent).drop row = items)
    (returns : rows visit descend parent (tree.width (tree.level false parent)) depth row
      items.length before = .ok () after) :
    Walked tree visit (Item.placesOf recursive parent row depth items) before after := by
  -- on the rows to come; `before` varies, as each row leaves another budget to the next one
  induction items generalizing row before with
  | nil =>
    obtain ⟨_, rfl⟩ := Step.pure_eq_ok.mp returns
    exact .nil _
  | cons item rest ih =>
    rw [List.length_cons, rows, Step.bind_eq_ok] at returns
    obtain ⟨fits, admitted, asked, returns⟩ := returns
    rw [admitted_eq] at asked
    obtain ⟨rfl, rfl⟩ := EStateM.Result.ok.inj asked
    by_cases fits : room before.budget 1 = 1
    · rw [if_pos (decide_eq_true fits)] at returns
      obtain ⟨_, shown, visited, returns⟩ := Step.bind_eq_ok.mp returns
      obtain ⟨_, below, descended, returns⟩ := Step.bind_eq_ok.mp returns
      obtain ⟨_, closed, closes, returns⟩ := Step.bind_eq_ok.mp returns
      obtain ⟨told, budget⟩ := visiting_eq_ok.mp visited
      obtain ⟨found, rest⟩ := of_drop_eq_cons suffix
      have first : Walked tree visit [⟨parent, row, depth⟩] before shown :=
        .row fits (tell_row told) budget
      have under := descends row item found _ _ descended
      have closing : Walked tree visit [] below closed := .aside rfl closes
      have others := ih (row + 1) rest returns
      have whole := first.trans (under.trans (closing.trans others))
      simpa [Item.placesOf] using whole
    · have full : room before.budget 1 = 0 := by
        have := room_le before.budget 1
        omega
      rw [if_neg (by simpa using fits), Step.pure_eq_ok] at returns
      obtain ⟨_, rfl⟩ := returns
      -- no room for this row, and so none for any row after it or below it
      exact .stopped full _

theorem level_walked (levels : Nat) (depth : Int) (parent : Option TreeCell)
    (returns : level tree.source visit recursive levels depth parent before = .ok () after) :
    Walked tree visit (tree.preorder recursive parent depth) before after := by
  -- the tree may be deeper than the walk: then the walk does not return
  induction levels generalizing depth parent before after with
  | zero => cases returns
  | succ levels ih =>
    rw [level, Step.bind_eq_ok] at returns
    obtain ⟨rowCount, _, counted, returns⟩ := returns
    rw [rows_eq, Step.of_eq_ok, Except.ok.injEq] at counted
    obtain ⟨rfl, rfl⟩ := counted
    obtain ⟨columnCount, _, counted, returns⟩ := Step.bind_eq_ok.mp returns
    rw [columns_eq, Step.of_eq_ok, Except.ok.injEq] at counted
    obtain ⟨rfl, rfl⟩ := counted
    obtain ⟨_, opened, opens, returns⟩ := Step.bind_eq_ok.mp returns
    obtain ⟨_, walked, walks, closes⟩ := Step.bind_eq_ok.mp returns
    have opening : Walked tree visit [] before opened := .aside rfl opens
    have closing : Walked tree visit [] walked after := .aside rfl closes
    have level : Walked tree visit (tree.preorder recursive parent depth) opened walked := by
      refine rows_walked parent depth ?_ 0 _ rfl walks
      intro row item found before after descended
      cases recursive with
      | false =>
        obtain ⟨_, rfl⟩ := Step.pure_eq_ok.mp descended
        exact .nil _
      | true =>
        obtain ⟨child, _, asked, descended⟩ := Step.bind_eq_ok.mp descended
        rw [cell_eq parent found, Step.of_eq_ok, Except.ok.injEq] at asked
        obtain ⟨rfl, rfl⟩ := asked
        rw [if_pos rfl, Item.placesBelow_eq]
        exact ih (depth + 1) (some ⟨item, .int 0⟩) descended
    simpa using opening.trans (level.trans closing)

/-- A walk is a pre-order under a budget. Whenever it returns, the visitor was told of exactly as
many of the rows below the parent as the budget had room for, in pre-order, each with its number and
its depth and with all of its cells between its beginning and its end; the budget has counted these
rows, and is truncated if it was so or if there were more. -/
theorem walk_eq_budgeted_preorder (tree : Tree) (visit : Event TreeCell → Step σ Unit)
    (parent : Option TreeCell) (depth : Int) (recursive : Bool) (maxDepth : Int)
    (budget : Option Budget) {kept : σ} {truncated : Bool} {after : Progress σ}
    (returns : walk tree.source visit parent depth recursive maxDepth ⟨budget, kept⟩ =
      .ok truncated after) :
    let rows := tree.rowsUnder recursive parent
    let visited := (tree.preorder recursive parent depth).take (room budget rows)
    (∃ events, tell visit events kept = .ok () after.kept ∧
      events.filterMap Event.place? = visited ∧
      Event.blocks events = visited.map tree.rowEvents) ∧
    visited.length = room budget rows ∧
    after.budget = budget.map (fun before => { before with
      count := before.count + room budget rows
      truncated := before.truncated || decide (room budget rows < rows) }) ∧
    truncated = (after.budget.map Budget.truncated).getD false := by
  intro rows visited
  obtain ⟨_, walked, walks, answers⟩ := Step.bind_eq_ok.mp returns
  obtain ⟨_, between, got, answers⟩ := Step.bind_eq_ok.mp answers
  obtain ⟨rfl, rfl⟩ := EStateM.Result.ok.inj got
  obtain ⟨answer, rfl⟩ := Step.pure_eq_ok.mp answers
  obtain ⟨settled, events, told, places, blocks⟩ := level_walked _ depth parent walks
  rw [Tree.length_preorder] at settled places blocks
  refine ⟨⟨events, told, places, ?_⟩, ?_, settled, answer.symm⟩
  · have closed := blocks []
    rwa [List.append_nil, Event.blocks, List.append_nil] at closed
  · rw [List.length_take, Tree.length_preorder]
    exact Nat.min_eq_left (room_le budget rows)

def collect (event : Event TreeCell) : Step (List (Event TreeCell)) Unit := modify (· ++ [event])

theorem tell_collect (events kept : List (Event TreeCell)) :
    tell collect events kept = .ok () (kept ++ events) := by
  induction events generalizing kept with
  | nil => simp [tell, pure, EStateM.pure]
  | cons event rest ih => exact Step.bind_eq_ok.mpr ⟨(), kept ++ [event], rfl, by simp [ih]⟩

def threeRows : Tree where
  items := [⟨#[.text "first"], [⟨#[.text "second"], [], []⟩], []⟩, ⟨#[.text "third"], [], []⟩]

theorem walk_threeRows_under_cap :
    ∃ after, walk threeRows.source collect none 0 true 9 ⟨some { cap := some 2 }, []⟩ =
        .ok true after ∧
      after.kept.filterMap Event.place? = (threeRows.preorder true none 0).take 2 ∧
      after.budget = some { cap := some 2, count := 2, truncated := true } := by
  obtain ⟨after, returns⟩ : ∃ after, walk threeRows.source collect none 0 true 9
      ⟨some { cap := some 2 }, []⟩ = .ok true after := ⟨_, rfl⟩
  obtain ⟨⟨events, told, places, _⟩, _, budget, _⟩ :=
    walk_eq_budgeted_preorder threeRows collect none 0 true 9 (some { cap := some 2 }) returns
  have fits : room (some { cap := some 2 }) (threeRows.rowsUnder true none) = 2 := by decide
  rw [tell_collect, List.nil_append] at told
  obtain ⟨_, kept⟩ := EStateM.Result.ok.inj told
  rw [fits, kept] at places
  rw [fits] at budget
  exact ⟨after, returns, places, budget⟩

end Walk

end TreeTable

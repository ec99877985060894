import TreeTable.Dashboard.Call
import TreeTable.Proofs.Tree

namespace TreeTable.Tree

def rowAt : (location : List Nat) → List Item → Option Item
  | [], _ => none
  | [index], rows => rows[index]?
  | index :: rest, rows => rows[index]?.bind fun item => rowAt rest item.children

def levelAt : (location : List Nat) → List Item → Option (List Item)
  | [], rows => some rows
  | index :: rest, rows => rows[index]?.bind fun item => levelAt rest item.children

structure Line where
  values : Array Value
  roles : Roles

def lineAt (location : List Nat) (rows : List Item) : Option Line :=
  (rowAt location rows).map fun item => ⟨item.values, item.roles⟩

theorem rowAt_cons (index next : Nat) (rest : List Nat) (rows : List Item) :
    rowAt (index :: next :: rest) rows =
      rows[index]?.bind fun item => rowAt (next :: rest) item.children := rfl

theorem lineAt_cons (index next : Nat) (rest : List Nat) (rows : List Item) :
    lineAt (index :: next :: rest) rows =
      rows[index]?.bind fun item => lineAt (next :: rest) item.children := by
  rw [lineAt, rowAt_cons, Option.map_bind]
  rfl

theorem isSome_lineAt (index : Nat) (rows : List Item) :
    (lineAt [index] rows).isSome = decide (index < rows.length) := by
  rw [lineAt, Option.isSome_map, rowAt]
  by_cases inside : index < rows.length
  · rw [List.getElem?_eq_getElem inside, decide_eq_true inside, Option.isSome_some]
  · rw [List.getElem?_eq_none (Nat.le_of_not_lt inside), decide_eq_false inside, Option.isSome_none]

variable {tree tree' : Tree} {rows rows' : List Item}

def placeIn (rows : List Item) (position : Value) : Except Failure Nat := do
  match place? rows.length (← position.asIndex) with
  | none => throw .outOfRange
  | some index => return index

theorem item_of_placeIn {position : Value} {index : Nat}
    (placed : placeIn rows position = .ok index) : ∃ item, rows[index]? = some item := by
  simp only [placeIn, bind_eq_ok] at placed
  obtain ⟨number, -, placed⟩ := placed
  cases found : place? rows.length number with
  | none => simp [found] at placed
  | some place =>
    simp only [found, pure_eq_ok] at placed
    subst placed
    exact ⟨_, List.getElem?_eq_getElem (place?_lt found)⟩

theorem locate_go_cons (position : Value) (rest : List Value) :
    locate.go tree false rows (position :: rest) =
      placeIn rows position >>= fun index => (index :: ·) <$>
        locate.go tree false (((rows[index]?).map Item.children).getD []) rest := by
  rw [locate.go, placeIn, bind_assoc]
  refine bind_congr fun number => ?_
  cases place? rows.length number with
  | none => rfl
  | some index =>
    simp only [Bool.false_and, Bool.false_eq_true, if_false, map_eq_pure_bind]
    rfl

theorem ne_nil_of_locate_go {position : Value} {rest : List Value} {location : List Nat}
    (leads : locate.go tree false rows (position :: rest) = .ok location) :
    ∃ index more, location = index :: more := by
  rw [locate_go_cons, bind_eq_ok] at leads
  obtain ⟨index, -, leads⟩ := leads
  obtain ⟨more, -, rfl⟩ := map_eq_ok.mp leads
  exact ⟨index, more, rfl⟩

theorem locate_go_congr (same : ∀ location, (lineAt location rows').isSome =
    (lineAt location rows).isSome) (path : List Value) :
    locate.go tree' false rows' path = locate.go tree false rows path := by
  induction path generalizing rows rows' with
  | nil => rfl
  | cons position rest ih =>
    have lengths : rows'.length = rows.length := by
      -- the locations of one index count the rows of a level
      have top : ∀ index, index < rows'.length ↔ index < rows.length := by
        intro index
        simpa [isSome_lineAt] using same [index]
      have least := top rows.length
      have most := top rows'.length
      omega
    have placed : placeIn rows' position = placeIn rows position := by
      rw [placeIn, placeIn, lengths]
    rw [locate_go_cons, locate_go_cons, placed]
    cases found : placeIn rows position with
    | error failure => rfl
    | ok index =>
      obtain ⟨item, here⟩ := item_of_placeIn found
      obtain ⟨item', here'⟩ := item_of_placeIn (placed.trans found)
      rw [ok_bind, ok_bind, here, here']
      refine congrArg (List.cons index <$> ·) (ih fun location => ?_)
      cases location with
      | nil => rfl
      | cons next more =>
        have below := same (index :: next :: more)
        rwa [lineAt_cons, lineAt_cons, here, here'] at below

def cellOf (column : Value) : Option Item → Except Failure TreeCell
  | none => throw .outOfRange
  | some item => return ⟨item, column⟩

theorem cell_placed (parent : Option TreeCell) (row column : Value) :
    tree.source.cell row column parent =
      placeIn (tree.level false parent) row >>= fun index =>
        cellOf column (tree.level false parent)[index]? := by
  have answer : tree.source.cell row column parent =
      row.asIndex >>= fun number => cellOf column (pick? (tree.level false parent) number) := by
    refine bind_congr fun number => ?_
    cases pick? (tree.level false parent) number <;> rfl
  rw [answer, placeIn, bind_assoc]
  refine bind_congr fun number => ?_
  rw [pick?_eq]
  cases place? (tree.level false parent).length number <;> rfl

theorem cell_located (path : List Value) (row column : Value) (parent : Option TreeCell) :
    (Source.resolve.go tree.source parent path >>= tree.source.cell row column) =
      locate.go tree false (tree.level false parent) (path ++ [row]) >>= fun location =>
        cellOf column (rowAt location (tree.level false parent)) := by
  induction path generalizing parent with
  | nil =>
    rw [List.nil_append, locate_go_cons, Source.resolve.go, ok_bind, cell_placed, bind_assoc]
    refine bind_congr fun index => ?_
    rw [locate.go]
    rfl
  | cons position rest ih =>
    rw [List.cons_append, locate_go_cons, Source.resolve.go, cell_placed]
    cases found : placeIn (tree.level false parent) position with
    | error failure => rfl
    | ok index =>
      obtain ⟨item, here⟩ := item_of_placeIn found
      have placed : cellOf (.int 0) (some item) = .ok ⟨item, .int 0⟩ := rfl
      simp only [ok_bind, here, placed]
      rw [ih (some ⟨item, .int 0⟩), Option.map_some, Option.getD_some]
      have below : tree.level false (some ⟨item, .int 0⟩) = item.children := rfl
      rw [below]
      cases leads : locate.go tree false item.children (rest ++ [row]) with
      | error failure => rfl
      | ok location =>
        obtain ⟨next, more, rfl⟩ : ∃ next more, location = next :: more := by
          cases rest <;> exact ne_nil_of_locate_go leads
        have inside : rowAt (index :: next :: more) (tree.level false parent) =
            rowAt (next :: more) item.children := by
          rw [rowAt_cons, here, Option.bind_some]
        simp only [ok_bind, map_eq_pure_bind, pure_bind, inside]

def Line.text (line : Line) (column : Value) : Option Value → Except Failure (Option String)
  | some role => line.roles.text role column
  | none => do return (← column.lookIn line.values).map Value.cellText

theorem textOf_eq (tree : Tree) (path : List Value) (row column : Value) (role : Option Value) :
    (Content.tree tree none).textOf path row column role =
      tree.locate false (path ++ [row]) >>= fun location =>
        match lineAt location tree.items with
        | none => throw .outOfRange
        | some line => line.text column role := by
  have asked : (Content.tree tree none).textOf path row column role =
      (Source.resolve.go tree.source none path >>= tree.source.cell row column) >>= fun cell =>
        tree.source.text cell role := by
    rw [bind_assoc]
    rfl
  rw [asked, cell_located, bind_assoc]
  refine bind_congr fun location => ?_
  have top : tree.level false none = tree.items := rfl
  rw [top, lineAt]
  cases rowAt location tree.items with
  | none => rfl
  | some item => cases role <;> rfl

end TreeTable.Tree

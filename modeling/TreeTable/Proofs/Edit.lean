import TreeTable.Proofs.Location

namespace TreeTable

def Call.editsTree : Call → Bool
  | .appendRow .. | .removeRow .. | .setValue .. | .setHeaders _ | .clear => true
  | _ => false

namespace Tree

def SameOutside (location : List Nat) (before after : List Item) : Prop :=
  ∀ other, (∀ index rest, other ≠ location ++ index :: rest) →
    lineAt other after = lineAt other before

def SameBut (location : List Nat) (before after : List Item) : Prop :=
  ∀ other, other ≠ location → lineAt other after = lineAt other before

variable {before after rows : List Item} {location : List Nat}

theorem lineAt_set_of_ne {index place : Nat} (apart : place ≠ index) (changed : Item)
    (more : List Nat) :
    lineAt (place :: more) (rows.set index changed) = lineAt (place :: more) rows := by
  cases more with
  | nil => simp [lineAt, rowAt, List.getElem?_set_ne apart.symm]
  | cons next rest => rw [lineAt_cons, lineAt_cons, List.getElem?_set_ne apart.symm]

theorem lineAt_set_self {index : Nat} {item : Item} (found : rows[index]? = some item)
    (changed : Item) (next : Nat) (rest : List Nat) :
    lineAt (index :: next :: rest) (rows.set index changed) =
      lineAt (next :: rest) changed.children := by
  have inside : index < rows.length := (List.getElem?_eq_some_iff.mp found).1
  rw [lineAt_cons, List.getElem?_set_self inside, Option.bind_some]

theorem lineAt_set_children {index : Nat} {item : Item} (found : rows[index]? = some item)
    {children : List Item} {other : List Nat}
    (same : ∀ next rest, other = index :: next :: rest →
      lineAt (next :: rest) children = lineAt (next :: rest) item.children) :
    lineAt other (rows.set index { item with children }) = lineAt other rows := by
  match other with
  | [] => rfl
  | place :: more =>
    by_cases here : place = index
    · subst here
      cases more with
      | nil =>
        have inside : place < rows.length := (List.getElem?_eq_some_iff.mp found).1
        rw [lineAt, lineAt, rowAt, rowAt, List.getElem?_set_self inside, found]
        rfl
      | cons next rest =>
        rw [lineAt_set_self found, lineAt_cons, found]
        exact same next rest rfl
    · exact lineAt_set_of_ne here _ more

section

variable {α : Type} {change : List Item → Except Failure (α × List Item)} {answer : α}

theorem editLevel_eq_ok (edited : editLevel change location before = .ok (answer, after)) :
    ∃ level changed, levelAt location before = some level ∧ change level = .ok (answer, changed) ∧
      levelAt location after = some changed ∧ SameOutside location before after := by
  induction location generalizing before after with
  | nil =>
    refine ⟨before, after, rfl, edited, rfl, fun other outside => ?_⟩
    cases other with
    | nil => rfl
    | cons index rest => exact absurd rfl (outside index rest)
  | cons index rest ih =>
    rw [editLevel] at edited
    cases found : before[index]? with
    | none => simp [found] at edited
    | some item =>
      simp only [found, bind_eq_ok, pure_eq_ok, Prod.mk.injEq] at edited
      obtain ⟨⟨_, children⟩, below, rfl, rfl⟩ := edited
      obtain ⟨level, changed, stood, made, stands, same⟩ := ih below
      have inside : index < before.length := (List.getElem?_eq_some_iff.mp found).1
      refine ⟨level, changed, ?_, made, ?_, fun other outside => ?_⟩
      · rw [levelAt, found]
        exact stood
      · rw [levelAt, List.getElem?_set_self inside]
        exact stands
      · refine lineAt_set_children found fun next more here => same _ fun last tail there => ?_
        exact outside last tail (here.trans (congrArg (index :: ·) there))

theorem editLevel_comes {level : List Item} (stood : levelAt location before = some level)
    (comes : Comes (change level)) :
    Comes (editLevel change location before) := by
  induction location generalizing before with
  | nil =>
    cases stood
    exact comes
  | cons index rest ih =>
    rw [levelAt, Option.bind_eq_some_iff] at stood
    obtain ⟨item, found, stood⟩ := stood
    rw [editLevel, found]
    exact (ih stood).bind fun _ => comes_ok _

end

section

variable {change : Item → Except Failure Item}

theorem editRow_eq_ok (edited : editRow change location before = .ok after)
    (keeps : ∀ item changed, change item = .ok changed → changed.children = item.children) :
    ∃ item changed, rowAt location before = some item ∧ change item = .ok changed ∧
      rowAt location after = some changed ∧ SameBut location before after := by
  induction location generalizing before after with
  | nil => cases edited
  | cons index rest ih =>
    cases found : before[index]? with
    | none => cases rest <;> simp [editRow, found] at edited
    | some item =>
      have inside : index < before.length := (List.getElem?_eq_some_iff.mp found).1
      cases rest with
      | nil =>
        simp only [editRow, found, bind_eq_ok, pure_eq_ok] at edited
        obtain ⟨changed, made, rfl⟩ := edited
        refine ⟨item, changed, found, made, by simp [rowAt, inside], fun other apart => ?_⟩
        rcases other with _ | ⟨place, _ | ⟨next, more⟩⟩
        · rfl
        · exact lineAt_set_of_ne (fun here => apart (congrArg ([·]) here)) changed []
        · by_cases here : place = index
          · -- the change keeps the rows below, and so the lines there
            subst here
            rw [lineAt_set_self found, keeps item changed made, lineAt_cons, found]
            rfl
          · exact lineAt_set_of_ne here changed _
      | cons next rest =>
        simp only [editRow, found, bind_eq_ok, pure_eq_ok] at edited
        obtain ⟨children, below, rfl⟩ := edited
        obtain ⟨row, changed, stood, made, stands, same⟩ := ih below
        refine ⟨row, changed, ?_, made, ?_, fun other apart => ?_⟩
        · rw [rowAt_cons, found]
          exact stood
        · rw [rowAt_cons, List.getElem?_set_self inside]
          exact stands
        · refine lineAt_set_children found fun further more here => same _ fun there => ?_
          exact apart (here.trans (congrArg (index :: ·) there))

theorem editRow_comes {item : Item} (stood : rowAt location before = some item)
    (comes : Comes (change item)) :
    Comes (editRow change location before) := by
  induction location generalizing before with
  | nil => cases stood
  | cons index rest ih =>
    cases rest with
    | nil =>
      have found : before[index]? = some item := stood
      rw [editRow, found]
      exact comes.bind fun _ => comes_ok _
    | cons next rest =>
      obtain ⟨parent, found, stood⟩ := Option.bind_eq_some_iff.mp stood
      rw [editRow, found]
      · exact (ih stood).bind fun _ => comes_ok _
      · exact List.cons_ne_nil _ _

end

def column? (size : Nat) (number : Int) : Option Nat :=
  if 0 ≤ number then if number < size + mostNewColumns then some number.toNat else none
  else place? size number

def Assigned (column : Nat) (value : Value) (before after : Array Value) : Prop :=
  ∀ other : Nat, after[other]? =
    if other = column then some value
    else if before.size ≤ other ∧ other < column then some (.text "")
    else before[other]?

theorem assigned_push {values : Array Value} {column : Nat} (past : values.size ≤ column)
    (value : Value) :
    Assigned column value values
      ((values ++ Array.replicate (column - values.size) (Value.text "")).push value) := by
  intro other
  rw [Array.getElem?_push, Array.size_append, Array.size_replicate,
    Nat.add_sub_of_le past, Array.getElem?_append, Array.getElem?_replicate]
  by_cases here : other = column
  · rw [if_pos here, if_pos here]
  · rw [if_neg here, if_neg here]
    by_cases known : other < values.size
    · rw [if_pos known, if_neg (by omega)]
    · rw [if_neg known]
      by_cases added : other < column
      · rw [if_pos (by omega), if_pos (by omega)]
      · rw [if_neg (by omega), if_neg (by omega), Array.getElem?_eq_none (by omega)]

theorem assigned_set {values : Array Value} {column : Nat} (inside : column < values.size)
    (value : Value) : Assigned column value values (values.setIfInBounds column value) := by
  intro other
  rw [Array.getElem?_setIfInBounds]
  by_cases here : other = column
  · rw [if_pos here.symm, if_pos here, if_pos inside]
  · rw [if_neg (Ne.symm here), if_neg here, if_neg (by omega)]

theorem withValue_of_column {values : Array Value} {number : Int} {column : Nat}
    (known : column? values.size number = some column) (value : Value) :
    Answers (Assigned column value values) (withValue values number value) := by
  have sizes : mostNewColumns < Value.positionBound := by decide
  unfold withValue
  by_cases past : (values.size : Int) ≤ number
  · obtain ⟨room, rfl⟩ : number < values.size + mostNewColumns ∧ number.toNat = column := by
      simpa [column?, show 0 ≤ number by omega] using known
    rw [if_pos past]
    dsimp only
    rw [if_neg (by omega), if_neg (by omega)]
    refine .ok ?_
    have added : number.toNat + 1 - values.size - 1 = number.toNat - values.size := by omega
    rw [added]
    exact assigned_push (by omega) value
  · have placed : place? values.size number = some column := by
      by_cases front : 0 ≤ number
      · simp [column?, front, show number < values.size + mostNewColumns by omega] at known
        simp [place?]
        omega
      · rw [← known, column?, if_neg front]
    have inside : column < values.size := by grind [place?]
    rw [if_neg past, placed]
    exact .ok (assigned_set inside value)

theorem withValue_of_no_column {values : Array Value} {number : Int}
    (unknown : column? values.size number = none) (value : Value) :
    ∃ failure, withValue values number value = .error failure := by
  unfold withValue
  by_cases past : (values.size : Int) ≤ number
  · have full : values.size + mostNewColumns ≤ number := by
      simpa [column?, show 0 ≤ number by omega] using unknown
    rw [if_pos past]
    dsimp only
    split
    · exact ⟨_, rfl⟩
    · rw [if_pos (by omega)]
      exact ⟨_, rfl⟩
  · have behind : ¬ 0 ≤ number := by
      intro front
      simp [column?, front, show number < values.size + mostNewColumns by omega] at unknown
    rw [column?, if_neg behind] at unknown
    rw [if_neg past, unknown]
    exact ⟨_, rfl⟩

/-- What a call makes of a tree if it succeeds, and what it answers. -/
inductive Edited (before : Tree) : Call → Reply → Tree → Prop
  | appended {path : Option (List Value)} {values roles : Value} {location : List Nat}
      {elements : List Value} {data : Roles} {level items : List Item}
      (leads : before.locateLevel false path = .ok location)
      (given : values.elements = .ok elements) (attributes : Roles.ofOptional roles = .ok data)
      (stood : levelAt location before.items = some level)
      (stands : levelAt location items = some (level ++ [⟨elements.toArray, [], data⟩]))
      (elsewhere : SameOutside location before.items items) :
      Edited before (.appendRow path values roles) (.row ⟨elements.toArray, [], data⟩)
        { before with items }
  | removed {path : Option (List Value)} {row : Value} {location : List Nat} {number : Int}
      {index : Nat} {item : Item} {level items : List Item}
      (leads : before.locateLevel false path = .ok location)
      (counts : row.asBoundedIndex = .ok number)
      (stood : levelAt location before.items = some level)
      (placed : place? level.length number = some index) (found : level[index]? = some item)
      (stands : levelAt location items = some (level.eraseIdx index))
      (elsewhere : SameOutside location before.items items) :
      Edited before (.removeRow path row) (.row item) { before with items }
  | assigned {path : List Value} {column value : Value} {location : List Nat} {number : Int}
      {index : Nat} {item : Item} {values : Array Value} {items : List Item}
      (leads : before.locate false path = .ok location) (counts : column.asIndex = .ok number)
      (stood : rowAt location before.items = some item)
      (placed : column? item.values.size number = some index)
      (took : Assigned index value item.values values)
      (stands : rowAt location items = some { item with values })
      (elsewhere : SameBut location before.items items) :
      Edited before (.setValue path column value) .done { before with items }
  | titled {headers : Value} {elements : List Value} (given : headers.elements = .ok elements) :
      Edited before (.setHeaders headers) .done
        { before with headers := (elements.map Value.cellText).toArray }
  | cleared : Edited before .clear .done { before with items := [], rowHeaders := #[] }

variable {tree changed : Tree} {call : Call} {reply : Reply}

theorem appendRow_eq_ok {values roles : Value} {item : Item}
    (appended : tree.appendRow location values roles = .ok (item, changed)) :
    ∃ elements data level items, values.elements = .ok elements ∧
      Roles.ofOptional roles = .ok data ∧ item = ⟨elements.toArray, [], data⟩ ∧
      changed = { tree with items } ∧ levelAt location tree.items = some level ∧
      levelAt location items = some (level ++ [item]) ∧
      SameOutside location tree.items items := by
  simp only [appendRow, bind_eq_ok, pure_eq_ok, Prod.mk.injEq] at appended
  obtain ⟨elements, given, data, attributes, ⟨_, items⟩, edited, rfl, rfl⟩ := appended
  obtain ⟨level, longer, stood, made, stands, elsewhere⟩ := editLevel_eq_ok edited
  cases made
  exact ⟨elements, data, level, items, given, attributes, rfl, rfl, stood, stands, elsewhere⟩

theorem removeRow_eq_ok {row : Value} {item : Item}
    (removed : tree.removeRow location row = .ok (item, changed)) :
    ∃ number level index items, row.asBoundedIndex = .ok number ∧
      changed = { tree with items } ∧ levelAt location tree.items = some level ∧
      place? level.length number = some index ∧ level[index]? = some item ∧
      levelAt location items = some (level.eraseIdx index) ∧
      SameOutside location tree.items items := by
  simp only [removeRow, bind_eq_ok, pure_eq_ok, Prod.mk.injEq] at removed
  obtain ⟨⟨item, items⟩, edited, rfl, rfl⟩ := removed
  obtain ⟨level, shorter, stood, made, stands, elsewhere⟩ := editLevel_eq_ok edited
  obtain ⟨number, counts, made⟩ := bind_eq_ok.mp made
  cases placed : place? level.length number with
  | none => simp [placed] at made
  | some index =>
    cases found : level[index]? with
    | none => simp [placed, found] at made
    | some row =>
      simp only [placed, found, pure_eq_ok, Prod.mk.injEq] at made
      obtain ⟨rfl, rfl⟩ := made
      exact ⟨number, level, index, items, counts, rfl, stood, placed, found, stands, elsewhere⟩

theorem setValue_eq_ok {column value : Value}
    (set : tree.setValue location column value = .ok changed) :
    ∃ number item index values items, column.asIndex = .ok number ∧
      changed = { tree with items } ∧ rowAt location tree.items = some item ∧
      column? item.values.size number = some index ∧
      Assigned index value item.values values ∧
      rowAt location items = some { item with values } ∧
      SameBut location tree.items items := by
  simp only [setValue, bind_eq_ok, pure_eq_ok] at set
  obtain ⟨items, edited, rfl⟩ := set
  obtain ⟨item, longer, stood, made, stands, elsewhere⟩ := editRow_eq_ok edited fun _ _ made => by
    simp only [bind_eq_ok, pure_eq_ok] at made
    obtain ⟨_, _, _, _, rfl⟩ := made
    rfl
  simp only [bind_eq_ok, pure_eq_ok] at made
  obtain ⟨number, counts, values, given, rfl⟩ := made
  cases placed : column? item.values.size number with
  | none =>
    obtain ⟨failure, refused⟩ := withValue_of_no_column placed value
    rw [refused] at given
    cases given
  | some index =>
    obtain ⟨values', given', took⟩ := withValue_of_column placed value
    cases given.symm.trans given'
    exact ⟨number, item, index, values, items, counts, rfl, stood, placed, took, stands, elsewhere⟩

theorem edited_of_perform {content : Option Content} (edits : call.editsTree)
    (performed : (Content.tree tree none).perform call = .ok (reply, content)) :
    ∃ after, content = some (.tree after none) ∧ tree.Edited call reply after := by
  cases call with
  | appendRow path values roles =>
    simp only [Content.perform, bind_eq_ok, pure_eq_ok, Prod.mk.injEq] at performed
    obtain ⟨location, leads, ⟨item, after⟩, appended, rfl, rfl⟩ := performed
    obtain ⟨elements, data, level, items, given, attributes, rfl, rfl, stood, stands, elsewhere⟩ :=
      appendRow_eq_ok appended
    exact ⟨_, rfl, .appended leads given attributes stood stands elsewhere⟩
  | removeRow path row =>
    simp only [Content.perform, bind_eq_ok, pure_eq_ok, Prod.mk.injEq] at performed
    obtain ⟨location, leads, ⟨item, after⟩, removed, rfl, rfl⟩ := performed
    obtain ⟨number, level, index, items, counts, rfl, stood, placed, found, stands, elsewhere⟩ :=
      removeRow_eq_ok removed
    exact ⟨_, rfl, .removed leads counts stood placed found stands elsewhere⟩
  | setValue path column value =>
    simp only [Content.perform, bind_eq_ok, pure_eq_ok, Prod.mk.injEq] at performed
    obtain ⟨location, leads, after, set, rfl, rfl⟩ := performed
    obtain ⟨number, item, index, values, items, counts, rfl, stood, placed, took, stands,
      elsewhere⟩ := setValue_eq_ok set
    exact ⟨_, rfl, .assigned leads counts stood placed took stands elsewhere⟩
  | setHeaders headers =>
    simp only [Content.perform, setHeaders, bind_eq_ok, pure_eq_ok, Prod.mk.injEq] at performed
    obtain ⟨after, ⟨elements, given, rfl⟩, rfl, rfl⟩ := performed
    exact ⟨_, rfl, .titled given⟩
  | clear =>
    cases performed
    exact ⟨_, rfl, .cleared⟩
  | _ => cases edits

theorem appendRow_comes {values roles : Value} {elements : List Value} {data : Roles}
    {level : List Item} (given : values.elements = .ok elements)
    (attributes : Roles.ofOptional roles = .ok data)
    (stood : levelAt location tree.items = some level) :
    Comes (tree.appendRow location values roles) := by
  rw [appendRow, given, attributes, ok_bind, ok_bind]
  exact (editLevel_comes stood (comes_ok _)).bind fun _ => comes_ok _

theorem removeRow_comes {row : Value} {number : Int} {index : Nat} {item : Item}
    {level : List Item} (counts : row.asBoundedIndex = .ok number)
    (stood : levelAt location tree.items = some level)
    (placed : place? level.length number = some index) (found : level[index]? = some item) :
    Comes (tree.removeRow location row) := by
  refine (editLevel_comes stood ?_).bind fun _ => comes_ok _
  simp only [counts, ok_bind, placed, found]
  exact comes_ok _

theorem setValue_comes {column : Value} {number : Int} {index : Nat} {item : Item}
    (counts : column.asIndex = .ok number) (stood : rowAt location tree.items = some item)
    (placed : column? item.values.size number = some index) (value : Value) :
    Comes (tree.setValue location column value) := by
  refine (editRow_comes stood ?_).bind fun _ => comes_ok _
  simp only [counts, ok_bind]
  obtain ⟨values, given, -⟩ := withValue_of_column placed value
  rw [given]
  exact comes_ok _

theorem perform_comes (edited : tree.Edited call reply changed) :
    Comes ((Content.tree tree none).perform call) := by
  have plain : Content.isCyclic none = false := rfl
  cases edited with
  | appended leads given attributes stood =>
    simp only [Content.perform, plain, leads, ok_bind]
    exact (appendRow_comes given attributes stood).bind fun _ => comes_ok _
  | removed leads counts stood placed found =>
    simp only [Content.perform, plain, leads, ok_bind]
    exact (removeRow_comes counts stood placed found).bind fun _ => comes_ok _
  | assigned leads counts stood placed =>
    simp only [Content.perform, plain, leads, ok_bind]
    exact (setValue_comes counts stood placed _).bind fun _ => comes_ok _
  | titled given =>
    simp only [Content.perform, setHeaders, given, ok_bind]
    exact comes_ok _
  | cleared => exact comes_ok _

structure ShowsAssigned (before after : Tree) (location : List Nat) (size column : Nat)
    (value : Value) : Prop where
  reads : ∀ path row, before.locate false (path ++ [row]) = .ok location →
    (Content.tree after none).textOf path row (.int column) none = .ok (some value.cellText)
  fills : ∀ path row (other : Nat), before.locate false (path ++ [row]) = .ok location →
    size ≤ other → other < column →
    (Content.tree after none).textOf path row (.int other) none = .ok (some "")
  keeps : ∀ path row (other : Int) role,
    role ≠ none ∨ (other ≠ column ∧ ¬ (size ≤ other ∧ other < column)) →
    (Content.tree after none).textOf path row (.int other) role =
      (Content.tree before none).textOf path row (.int other) role
  elsewhere : ∀ path row other role, before.locate false (path ++ [row]) ≠ .ok location →
    (Content.tree after none).textOf path row other role =
      (Content.tree before none).textOf path row other role

theorem showsAssigned {item : Item} {values : Array Value} {items : List Item} {column : Nat}
    {value : Value} (stood : rowAt location tree.items = some item)
    (took : Assigned column value item.values values)
    (stands : rowAt location items = some { item with values })
    (elsewhere : SameBut location tree.items items) :
    ShowsAssigned tree { tree with items } location item.values.size column value := by
  have line : lineAt location tree.items = some ⟨item.values, item.roles⟩ := by
    rw [lineAt, stood]
    rfl
  have line' : lineAt location items = some ⟨values, item.roles⟩ := by
    rw [lineAt, stands]
    rfl
  -- no line comes or goes, so every path leads where it led
  have located : ∀ path,
      ({ tree with items } : Tree).locate false path = tree.locate false path := by
    refine locate_go_congr fun other => ?_
    by_cases here : other = location
    · rw [here, line, line']
      rfl
    · rw [elsewhere other here]
  refine ⟨?_, ?_, ?_, ?_⟩
  · intro path row leads
    rw [textOf_eq, located, leads, ok_bind, line']
    have holds := took column
    rw [if_pos rfl] at holds
    simp only [Line.text, Value.lookIn_nat, ok_bind, holds]
    rfl
  · intro path row other leads past behind
    rw [textOf_eq, located, leads, ok_bind, line']
    have holds := took other
    rw [if_neg (by omega), if_pos ⟨past, behind⟩] at holds
    simp only [Line.text, Value.lookIn_nat, ok_bind, holds]
    rfl
  · intro path row other role aside
    rw [textOf_eq, textOf_eq, located]
    refine bind_congr fun place => ?_
    by_cases here : place = location
    · rw [here, line, line']
      cases role with
      | some role => rfl
      | none =>
        have apart := aside.resolve_left (absurd rfl)
        have same : nth? values.toList other = nth? item.values.toList other := by
          unfold nth?
          split
          · rw [Array.getElem?_toList, Array.getElem?_toList, took, if_neg (by omega),
              if_neg (by omega)]
          · rfl
        simp only [Line.text, Value.lookIn_int, same]
    · rw [elsewhere place here]
  · intro path row other role away
    rw [textOf_eq, textOf_eq, located]
    cases leads : tree.locate false (path ++ [row]) with
    | error failure => rfl
    | ok place =>
      have apart : place ≠ location := fun same => away (same ▸ leads)
      rw [ok_bind, ok_bind, elsewhere place apart]

end Tree

end TreeTable

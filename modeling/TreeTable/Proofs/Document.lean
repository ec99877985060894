import TreeTable.Proofs.Outcome
import TreeTable.Source.Document

/-!
Which values are documents: those that a tree can be read from. A value that is none is of another
shape somewhere, and reading it fails.
-/

namespace TreeTable

namespace Value

def IsSeries (data : Value) : Prop := ∃ elements, data.elements? = some elements

def IsPair (data : Value) : Prop :=
  ∃ key value, data.elements? = some [key, value] ∧ key.canBeKey

def IsMapping : Value → Prop
  | .object _ => True
  | data => ∃ elements, data.elements? = some elements ∧ ∀ element ∈ elements, element.IsPair

def FieldIs (fields : List (Text × Value)) (name : String) (kind : Value → Prop) : Prop :=
  ∀ data, field? fields name = some data → kind data

mutual

/-- A row below which rows stand at no more levels than so many. -/
inductive IsRow : (levels : Nat) → Value → Prop
  | object {levels : Nat} {fields : List (Text × Value)} (values : FieldIs fields "values" IsSeries)
      (children : FieldIs fields "children" (IsRows levels))
      (roles : FieldIs fields "roles" IsMapping) : IsRow (levels + 1) (.object fields)

inductive IsRows : (levels : Nat) → Value → Prop
  | list {levels : Nat} {items : List Value} (rows : ∀ item ∈ items, IsRow levels item) :
      IsRows levels (.list items)
  | none {levels : Nat} {data : Value} (series : data.IsSeries) (nothing : data.isEmpty) :
      IsRows levels data

end

/-- An object whose fields, as far as they are there, are rows, header texts and attributes of
headers. -/
inductive IsDocument (levels : Nat) : Value → Prop
  | object {fields : List (Text × Value)}
      (rows : FieldIs fields "rows" (IsRows levels))
      (headers : FieldIs fields "headers" fun data => data.isEmpty ∨ data.IsSeries)
      (rowHeaders : FieldIs fields "row_headers" fun data => data.isEmpty ∨ data.IsSeries)
      (headerRoles : FieldIs fields "header_roles" fun data => data.isEmpty ∨ data.IsMapping)
      (rowHeaderRoles : FieldIs fields "row_header_roles" fun data =>
        data.isEmpty ∨ data.IsMapping) :
      IsDocument levels (.object fields)

theorem isRows_iff_isEmpty {levels : Nat} {data : Value} (series : data.IsSeries)
    (noList : ∀ items, data ≠ .list items) : data.IsRows levels ↔ data.isEmpty := by
  refine ⟨fun areRows => ?_, .none series⟩
  cases areRows with
  | list => exact absurd rfl (noList _)
  | none _ nothing => exact nothing

theorem elements_comes_iff (data : Value) : Comes data.elements ↔ data.IsSeries := by
  unfold elements IsSeries
  cases data.elements? with
  | none => simp [not_comes_error]
  | some elements => simp [comes_ok]

theorem headerTexts_comes_iff (data : Value) :
    Comes data.headerTexts ↔ data.isEmpty ∨ data.IsSeries := by
  unfold headerTexts
  cases data.isEmpty with
  | true => simp [comes_ok]
  | false =>
    rw [if_neg Bool.false_ne_true, comes_map_iff, elements_comes_iff]
    simp

theorem comes_field_iff {α : Type} {fields : List (Text × Value)} {name : String}
    {reading : Value → Except Failure α} {kind : Value → Prop}
    (reads : ∀ data, Comes (reading data) ↔ kind data) (without : kind (.list [])) :
    Comes (reading ((field? fields name).getD (.list []))) ↔ FieldIs fields name kind := by
  rw [reads, FieldIs]
  cases field? fields name with
  | none => simpa using without
  | some data => simp

end Value

namespace Roles

theorem pairOf_comes_iff (position : Nat) (element : Value) :
    Comes (pairOf position element) ↔ element.IsPair := by
  unfold pairOf Value.IsPair
  split
  · rename_i none
    simp [none, not_comes_error]
  · rename_i key value pair
    cases named : key.canBeKey <;> simp [pair, named, comes_ok, not_comes_error]
  · rename_i other noPair found
    simp only [found, not_comes_error, false_iff, not_exists, not_and]
    intro key value pair
    exact absurd (Option.some.inj pair) (noPair key value)

theorem pairsOf_comes_iff (position : Nat) (elements : List Value) :
    Comes (pairsOf position elements) ↔ ∀ element ∈ elements, element.IsPair := by
  induction elements generalizing position with
  | nil => simp [pairsOf, comes_ok]
  | cons element rest ih =>
    rw [pairsOf, comes_bind_iff fun pair => comes_map_iff.trans (ih _), pairOf_comes_iff,
      List.forall_mem_cons]

theorem ofValue_comes_iff (data : Value) : Comes (ofValue data) ↔ data.IsMapping := by
  unfold ofValue Value.IsMapping
  split
  · simp [comes_ok]
  · split
    · rename_i none
      simp [none, not_comes_error]
    · rename_i elements found
      rw [comes_map_iff, pairsOf_comes_iff]
      simp [found]

theorem ofOptional_comes_iff (data : Value) :
    Comes (ofOptional data) ↔ data.isEmpty ∨ data.IsMapping := by
  unfold ofOptional
  cases data.isEmpty with
  | true => simp [comes_ok]
  | false => simp [ofValue_comes_iff]

end Roles

namespace Item

theorem valuesOf_comes_iff (fields : List (Text × Value)) :
    Comes (valuesOf fields) ↔ Value.FieldIs fields "values" Value.IsSeries := by
  unfold valuesOf Value.FieldIs
  cases Value.field? fields "values" with
  | none => simp [comes_ok]
  | some data =>
    dsimp only
    rw [comes_map_iff, Value.elements_comes_iff]
    simp

theorem rolesOf_comes_iff (fields : List (Text × Value)) :
    Comes (rolesOf fields) ↔ Value.FieldIs fields "roles" Value.IsMapping := by
  unfold rolesOf Value.FieldIs
  cases Value.field? fields "roles" with
  | none => simp [comes_ok]
  | some data => simp [Roles.ofValue_comes_iff]

open Value (IsRow IsRows FieldIs)

mutual

theorem ofValue_comes_iff : ∀ (levels : Nat) (data : Value),
    Comes (ofValue levels data) ↔ IsRow levels data
  | 0, .object fields => by
    rw [ofValue]
    exact ⟨fun comes => (not_comes_error _ comes).elim, fun isRow => nomatch isRow⟩
  | levels + 1, .object fields => by
    rw [ofValue, comes_bind_iff fun _ => comes_bind_iff fun _ => comes_map_iff,
      valuesOf_comes_iff, childrenIn_comes_iff levels fields, rolesOf_comes_iff]
    constructor
    · rintro ⟨values, children, roles⟩
      exact .object values children roles
    · rintro ⟨values, children, roles⟩
      exact ⟨values, children, roles⟩
  | _, .null | _, .bool _ | _, .int _ | _, .float _ | _, .text _ | _, .broken _ | _, .list _ => by
    rw [ofValue]
    · exact ⟨fun comes => (not_comes_error _ comes).elim, fun isRow => nomatch isRow⟩
    · simp

theorem listOfValue_comes_iff : ∀ (levels : Nat) (data : Value),
    Comes (listOfValue levels data) ↔ IsRows levels data
  | levels, .list items => by
    rw [listOfValue, ofValues_comes_iff levels items]
    constructor
    · exact .list
    · rintro (⟨rows⟩ | ⟨-, nothing⟩)
      · exact rows
      · obtain rfl : items = [] := List.isEmpty_iff.mp nothing
        simp
  | levels, .text s => by
    have series : (Value.text s).IsSeries := ⟨_, rfl⟩
    rw [listOfValue, comes_if_iff]
    exact (Value.isRows_iff_isEmpty series nofun).symm
  | levels, .broken points => by
    have series : (Value.broken points).IsSeries := ⟨_, rfl⟩
    rw [listOfValue, comes_if_iff]
    exact (Value.isRows_iff_isEmpty series nofun).symm
  | levels, .object fields => by
    have series : (Value.object fields).IsSeries := ⟨_, rfl⟩
    rw [listOfValue, comes_if_iff]
    exact (Value.isRows_iff_isEmpty series nofun).symm
  | levels, .null | levels, .bool _ | levels, .int _ | levels, .float _ => by
    rw [listOfValue]
    · refine ⟨fun comes => (not_comes_error _ comes).elim, fun areRows => ?_⟩
      cases areRows with
      | none series =>
        obtain ⟨_, found⟩ := series
        cases found
    all_goals simp

theorem childrenIn_comes_iff : ∀ (levels : Nat) (fields : List (Text × Value)),
    Comes (childrenIn levels fields) ↔ FieldIs fields "children" (IsRows levels)
  | levels, [] => by simp [childrenIn, comes_ok, FieldIs, Value.field?, Entries.value?]
  | levels, (name, data) :: rest => by
    rw [childrenIn]
    by_cases here : name = "children"
    · rw [if_pos here, listOfValue_comes_iff levels data]
      simp [FieldIs, Value.field?, Entries.value?, here]
    · rw [if_neg here, childrenIn_comes_iff levels rest]
      simp [FieldIs, Value.field?, Entries.value?, here]

theorem ofValues_comes_iff : ∀ (levels : Nat) (items : List Value),
    Comes (ofValues levels items) ↔ ∀ item ∈ items, IsRow levels item
  | levels, [] => by simp [ofValues, comes_ok]
  | levels, item :: rest => by
    rw [ofValues, comes_bind_iff fun _ => comes_map_iff.trans (ofValues_comes_iff levels rest),
      ofValue_comes_iff levels item, List.forall_mem_cons]

end

end Item

theorem Tree.ofValue_comes_iff (levels : Nat) (data : Value) :
    Comes (Tree.ofValue levels data) ↔ data.IsDocument levels := by
  unfold Tree.ofValue
  split
  · rename_i fields
    have noRows : Value.IsRows levels (.list []) := .list fun _ among => nomatch among
    have isEmpty : ∀ {kind : Value → Prop}, (Value.list []).isEmpty ∨ kind (.list []) := .inl rfl
    rw [comes_bind_iff fun _ => comes_bind_iff fun _ => comes_bind_iff fun _ =>
        comes_bind_iff fun _ => comes_map_iff,
      Value.comes_field_iff (Item.listOfValue_comes_iff levels) noRows,
      Value.comes_field_iff Value.headerTexts_comes_iff isEmpty,
      Value.comes_field_iff Value.headerTexts_comes_iff isEmpty,
      Value.comes_field_iff Roles.ofOptional_comes_iff isEmpty,
      Value.comes_field_iff Roles.ofOptional_comes_iff isEmpty]
    constructor
    · rintro ⟨rows, headers, rowHeaders, headerRoles, rowHeaderRoles⟩
      exact .object rows headers rowHeaders headerRoles rowHeaderRoles
    · rintro ⟨rows, headers, rowHeaders, headerRoles, rowHeaderRoles⟩
      exact ⟨rows, headers, rowHeaders, headerRoles, rowHeaderRoles⟩
  · rename_i noFields
    refine ⟨fun comes => (not_comes_error _ comes).elim, fun isDocument => ?_⟩
    cases isDocument
    exact absurd rfl (noFields _)

namespace Point

@[simp] theorem value_remark (mark : Char) (point : Point) :
    (point.remark mark).value = point.value.remark mark := by
  cases point <;> rfl

end Point

@[simp] theorem Text.value_remark (mark : Char) (text : Text) :
    (text.remark mark).value = text.value.remark mark := by
  cases text <;> rfl

namespace Value

variable {mark : Char} {fields : List (Text × Value)}

theorem remarkItems_eq_map (items : List Value) :
    remarkItems mark items = items.map (remark mark) := by
  induction items with
  | nil => rfl
  | cons item rest ih => rw [remarkItems, ih, List.map_cons]

theorem remarkFields_eq_map (fields : List (Text × Value)) :
    remarkFields mark fields = fields.map fun (name, data) =>
      (name.remark mark, data.remark mark) := by
  induction fields with
  | nil => rfl
  | cons field rest ih => rw [remarkFields, ih, List.map_cons]

theorem elements?_remark (data : Value) :
    (data.remark mark).elements? = data.elements?.map (List.map (remark mark)) := by
  cases data <;>
    simp [remark, elements?, remarkItems_eq_map, remarkFields_eq_map, Function.comp_def]

theorem isEmpty_remark (data : Value) : (data.remark mark).isEmpty = data.isEmpty := by
  cases data <;> simp [remark, isEmpty, remarkItems_eq_map, remarkFields_eq_map]

theorem canBeKey_remark (data : Value) : (data.remark mark).canBeKey = data.canBeKey := by
  cases data <;> rfl

theorem IsSeries.remark {data : Value} (series : data.IsSeries) :
    (data.remark mark).IsSeries := by
  obtain ⟨elements, found⟩ := series
  exact ⟨elements.map (Value.remark mark), by rw [elements?_remark, found]; rfl⟩

theorem IsPair.remark {data : Value} (pair : data.IsPair) : (data.remark mark).IsPair := by
  obtain ⟨key, value, found, named⟩ := pair
  exact ⟨key.remark mark, value.remark mark, by rw [elements?_remark, found]; rfl,
    canBeKey_remark key ▸ named⟩

theorem IsMapping.remark {data : Value} (mapping : data.IsMapping) :
    (data.remark mark).IsMapping := by
  have pairs : (∃ elements, data.elements? = some elements ∧ ∀ element ∈ elements,
      element.IsPair) → ∃ elements, (data.remark mark).elements? = some elements ∧
        ∀ element ∈ elements, element.IsPair := by
    rintro ⟨elements, found, pairs⟩
    refine ⟨elements.map (Value.remark mark), by rw [elements?_remark, found]; rfl, ?_⟩
    exact List.forall_mem_map.mpr fun element among => (pairs element among).remark
  cases data with
  | object fields => trivial
  | null | bool | int | float | text | broken | list => exact pairs mapping

theorem field?_remark (fields : List (Text × Value)) (name : String) :
    field? (remarkFields mark fields) name = (field? fields name).map (remark mark) := by
  have same : ∀ known : Text, (known.remark mark == .whole name) = (known == .whole name) := by
    rintro (known | points) <;> rfl
  unfold field?
  induction fields with
  | nil => rfl
  | cons field rest ih =>
    obtain ⟨known, data⟩ := field
    rw [remarkFields, Entries.value?, Entries.value?, same, ih]
    split <;> rfl

theorem FieldIs.remark {name : String} {kind : Value → Prop} (holds : FieldIs fields name kind)
    (kept : ∀ data, kind data → kind (data.remark mark)) :
    FieldIs (remarkFields mark fields) name kind := by
  intro data found
  rw [field?_remark, Option.map_eq_some_iff] at found
  obtain ⟨before, stood, rfl⟩ := found
  exact kept before (holds before stood)

mutual

theorem IsRow.remark : ∀ {levels : Nat} {data : Value}, data.IsRow levels →
    (data.remark mark).IsRow levels
  | _, _, .object values children roles =>
    .object (values.remark fun _ => IsSeries.remark)
      (FieldIs.remark (fun data found => children data found) fun _ rows => rows.remark)
      (roles.remark fun _ => IsMapping.remark)

theorem IsRows.remark : ∀ {levels : Nat} {data : Value}, data.IsRows levels →
    (data.remark mark).IsRows levels
  | _, _, .list rows => by
    rw [Value.remark, remarkItems_eq_map]
    exact .list (List.forall_mem_map.mpr fun item among => (rows item among).remark)
  | _, data, .none series nothing => .none series.remark (isEmpty_remark data ▸ nothing)

end

theorem IsDocument.remark {levels : Nat} {data : Value} (isDocument : data.IsDocument levels) :
    (data.remark mark).IsDocument levels := by
  obtain ⟨rows, headers, rowHeaders, headerRoles, rowHeaderRoles⟩ := isDocument
  exact .object (rows.remark fun _ => IsRows.remark)
    (headers.remark fun data => .imp (isEmpty_remark data ▸ ·) .remark)
    (rowHeaders.remark fun data => .imp (isEmpty_remark data ▸ ·) .remark)
    (headerRoles.remark fun data => .imp (isEmpty_remark data ▸ ·) .remark)
    (rowHeaderRoles.remark fun data => .imp (isEmpty_remark data ▸ ·) .remark)

end Value

end TreeTable

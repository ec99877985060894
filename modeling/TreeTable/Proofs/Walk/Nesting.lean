import TreeTable.Proofs.Walk.Told

/-!
The nesting of a walk. Its events are a word of a grammar: levels hold rows, rows hold cells, and
below a row stands another level. That is so whatever the source answers: its counts and its rows
need not agree with each other nor come to an end.
-/

namespace TreeTable

variable {ν : Type}

/-- What levels may be like: how many rows and columns there are, and what parent the level below a
row has. -/
structure Layout (ν : Type) where
  counts : Option ν → (rows columns : Nat) → Prop
  below : Option ν → (row : Nat) → Option ν → Prop

def Source.layout (source : Source ν) : Layout ν where
  counts parent rows columns := source.rows parent = .ok rows ∧ source.columns parent = .ok columns
  below parent row under := ∃ child, source.cell (.int row) (.int 0) parent = .ok child ∧
    under = some child

def Source.layoutSoFar (source : Source ν) : Layout ν where
  counts parent rows columns := source.layout.counts parent rows columns ∨ rows = 0
  below parent row under := source.layout.below parent row under ∨ under = none

structure Layout.Admits (layout : Layout ν) (source : Source ν) : Prop where
  counts : ∀ {parent rows columns}, source.layout.counts parent rows columns →
    layout.counts parent rows columns
  below : ∀ {parent row child}, source.layout.below parent row child →
    layout.below parent row child

theorem Source.layout_admits (source : Source ν) : source.layout.Admits source where
  counts := id
  below := id

theorem Source.layoutSoFar_admits (source : Source ν) : source.layoutSoFar.Admits source where
  counts := .inl
  below := .inl

namespace Walk

mutual

/-- The events of a level at a depth: all its rows, or the first ones where rows may be cut off. -/
inductive IsLevel (layout : Layout ν) (recursive cut : Bool) :
    Option ν → Int → List (Event ν) → Prop
  | level {parent : Option ν} {depth : Int} {rows columns last : Nat} {inside : List (Event ν)}
      (counts : layout.counts parent rows columns)
      (walked : IsRows layout recursive cut parent depth columns 0 last inside)
      (whole : last = rows ∨ last < rows ∧ cut = true) :
      IsLevel layout recursive cut parent depth
        (.beginLevel parent depth rows :: (inside ++ [.endLevel parent depth rows]))

inductive IsRows (layout : Layout ν) (recursive cut : Bool) :
    Option ν → Int → (columns row last : Nat) → List (Event ν) → Prop
  | done {parent : Option ν} {depth : Int} {columns row : Nat} :
      IsRows layout recursive cut parent depth columns row row []
  | row {parent : Option ν} {depth : Int} {columns row last : Nat}
      {below rest : List (Event ν)} (under : IsBelow layout recursive cut parent row depth below)
      (more : IsRows layout recursive cut parent depth columns (row + 1) last rest) :
      IsRows layout recursive cut parent depth columns row last
        (Row.events ⟨parent, row, depth⟩ columns ++
          (below ++ .closeRow parent row depth :: rest))

/-- The events between the end of a row and its close: the level below the row, exactly if the walk
is a recursive one. -/
inductive IsBelow (layout : Layout ν) (recursive cut : Bool) :
    Option ν → (row : Nat) → Int → List (Event ν) → Prop
  | nothing {parent : Option ν} {row : Nat} {depth : Int} (flat : recursive = false) :
      IsBelow layout recursive cut parent row depth []
  | level {parent child : Option ν} {row : Nat} {depth : Int} {events : List (Event ν)}
      (deep : recursive = true) (stands : layout.below parent row child)
      (level : IsLevel layout recursive cut child (depth + 1) events) :
      IsBelow layout recursive cut parent row depth events

end

theorem leftOut_settle (budget : Option Budget) (rows : Nat) :
    leftOut (settle budget rows) = (leftOut budget || decide (room budget rows < rows)) := by
  cases budget with
  | none => simp [leftOut, settle, room]
  | some budget => simp [leftOut, settle, charge]

theorem room_of_leftOut {budget : Option Budget} (out : leftOut budget = true) (rows : Nat) :
    room budget rows = 0 := by
  cases budget with
  | none => cases out
  | some budget => exact if_pos out

variable {source : Source ν} {layout : Layout ν} {recursive cut : Bool} {levels : Nat}
  {columns row left : Nat} {depth : Int} {parent : Option ν} {budget after : Option Budget}
  {failure : Failure} {descend : Nat → Option Budget → Script ν (Option Budget)}

theorem leftOut_rowsScript (out : leftOut budget = true)
    (ends : (rowsScript descend parent columns depth row left budget).ends = .ok after) :
    leftOut after = true := by
  cases left with
  | zero => rwa [← Except.ok.inj ends]
  | succ left =>
    have full := room_of_leftOut out 1
    obtain ⟨fits, -⟩ | ⟨-, rfl, -⟩ := rowsScript_returns ends
    · omega
    · rw [leftOut_settle, out, Bool.true_or]

theorem not_leftOut_of_fails
    (ends : (rowsScript descend parent columns depth row left budget).ends = .error failure) :
    leftOut budget = false := by
  cases left with
  | zero => cases ends
  | succ left =>
    obtain ⟨fits, -⟩ := rowsScript_fails ends
    cases out : leftOut budget with
    | false => rfl
    | true =>
      have full := room_of_leftOut out 1
      omega

/-! ## Walks that return -/

theorem rowsScript_isRows
    (descends : ∀ row budget after, (descend row budget).ends = .ok after →
      ∀ cut, (leftOut after = true → cut = true) →
        IsBelow layout recursive cut parent row depth (descend row budget).events)
    (ends : (rowsScript descend parent columns depth row left budget).ends = .ok after)
    (cuts : leftOut after = true → cut = true) :
    ∃ last, (last = row + left ∨ last < row + left ∧ cut = true) ∧
      IsRows layout recursive cut parent depth columns row last
        (rowsScript descend parent columns depth row left budget).events := by
  induction left generalizing row budget with
  | zero => exact ⟨row, .inl rfl, .done⟩
  | succ left ih =>
    obtain ⟨-, middle, under, ends, acts⟩ | ⟨full, rfl, acts⟩ := rowsScript_returns ends
    · obtain ⟨last, whole, more⟩ := ih ends
      have next : row + 1 + left = row + (left + 1) := by omega
      rw [next] at whole
      -- the rows to come are cut off as well if rows were left out below this one
      have below := descends row _ middle under cut fun out => cuts (leftOut_rowsScript out ends)
      refine ⟨last, whole, ?_⟩
      rw [Script.events, acts, List.flatMap_cons, List.flatMap_append, List.flatMap_cons]
      exact .row below more
    · have out : leftOut (settle budget 1) = true := by
        rw [leftOut_settle, full]
        exact Bool.or_true _
      refine ⟨row, .inr ⟨by omega, cuts out⟩, ?_⟩
      rw [Script.events, acts]
      exact .done

theorem levelScript_isLevel (admits : layout.Admits source)
    (ends : (levelScript source recursive levels depth parent budget).ends = .ok after)
    (cuts : leftOut after = true → cut = true) :
    IsLevel layout recursive cut parent depth
      (levelScript source recursive levels depth parent budget).events := by
  -- on the levels that may still be entered, as the source need not come to an end
  induction levels generalizing depth parent budget after cut with
  | zero => cases ends
  | succ levels ih =>
    obtain ⟨_, rows, columns, same, counted, counted', inside, acts⟩ := levelScript_returns ends
    obtain rfl := Nat.succ.inj same
    have descends : ∀ row budget after,
        (descent source recursive levels depth parent row budget).ends = .ok after →
        ∀ cut, (leftOut after = true → cut = true) → IsBelow layout recursive cut parent row depth
          (descent source recursive levels depth parent row budget).events := by
      intro row budget after under cut cuts
      obtain ⟨flat, -, acts⟩ | ⟨deep, child, found, same⟩ := descent_returns under
      · rw [Script.events, acts]
        exact .nothing flat
      · rw [same] at under ⊢
        exact .level deep (admits.below ⟨child, found, rfl⟩) (ih under cuts)
    obtain ⟨last, whole, walked⟩ := rowsScript_isRows descends inside cuts
    rw [Script.events, acts, List.flatMap_cons, List.flatMap_append]
    rw [Nat.zero_add] at whole
    exact .level (admits.counts ⟨counted, counted'⟩) walked whole

/-! ## Walks that fail -/

theorem isLevel_empty (source : Source ν) (recursive cut : Bool) (parent : Option ν)
    (depth : Int) : IsLevel source.layoutSoFar recursive cut parent depth
      [.beginLevel parent depth 0, .endLevel parent depth 0] := by
  have counts : source.layoutSoFar.counts parent 0 0 := .inr rfl
  exact .level counts .done (.inl rfl)

theorem exists_isBelow (source : Source ν) (recursive cut : Bool) (parent : Option ν) (row : Nat)
    (depth : Int) : ∃ word, IsBelow source.layoutSoFar recursive cut parent row depth word := by
  cases recursive with
  | false => exact ⟨[], .nothing rfl⟩
  | true => exact ⟨_, .level rfl (.inr rfl) (isLevel_empty source true cut none (depth + 1))⟩

theorem exists_isRows (source : Source ν) (recursive cut : Bool) (parent : Option ν) (depth : Int)
    (columns row left : Nat) : ∃ word,
      IsRows source.layoutSoFar recursive cut parent depth columns row (row + left) word := by
  induction left generalizing row with
  | zero => exact ⟨[], .done⟩
  | succ left ih =>
    obtain ⟨below, under⟩ := exists_isBelow source recursive cut parent row depth
    obtain ⟨rest, more⟩ := ih (row + 1)
    rw [Nat.add_right_comm] at more
    exact ⟨_, .row under more⟩

theorem rowsScript_prefix
    (returns : ∀ row budget after, (descend row budget).ends = .ok after → leftOut after = false →
      IsBelow source.layoutSoFar recursive false parent row depth (descend row budget).events)
    (fails : ∀ row budget, (descend row budget).ends = .error failure →
      ∃ word, IsBelow source.layoutSoFar recursive false parent row depth word ∧
        (descend row budget).events <+: word)
    (ends : (rowsScript descend parent columns depth row left budget).ends = .error failure) :
    ∃ word, IsRows source.layoutSoFar recursive false parent depth columns row (row + left) word ∧
      (rowsScript descend parent columns depth row left budget).events <+: word := by
  induction left generalizing row budget with
  | zero => cases ends
  | succ left ih =>
    have next : row + 1 + left = row + (left + 1) := by omega
    obtain ⟨-, ⟨below, acts⟩ | ⟨middle, under, ends, acts⟩⟩ := rowsScript_fails ends
    · obtain ⟨word, isBelow, begins⟩ := fails row _ below
      -- nothing was told of the rows to come, so any will do
      have others := exists_isRows source recursive false parent depth columns (row + 1) left
      rw [next] at others
      obtain ⟨rest, more⟩ := others
      refine ⟨_, .row isBelow more, ?_⟩
      rw [Script.events, acts, List.flatMap_cons]
      exact (List.prefix_append_right_inj _).mpr (begins.trans (List.prefix_append _ _))
    · obtain ⟨rest, more, begins⟩ := ih ends
      rw [next] at more
      have below := returns row _ middle under (not_leftOut_of_fails ends)
      refine ⟨_, .row below more, ?_⟩
      rw [Script.events, acts, List.flatMap_cons, List.flatMap_append, List.flatMap_cons]
      refine (List.prefix_append_right_inj _).mpr ((List.prefix_append_right_inj _).mpr ?_)
      exact (List.prefix_cons_inj _).mpr begins

theorem descent_isBelow
    (ends : (descent source recursive levels depth parent row budget).ends = .ok after)
    (kept : leftOut after = false) :
    IsBelow source.layoutSoFar recursive false parent row depth
      (descent source recursive levels depth parent row budget).events := by
  obtain ⟨flat, -, acts⟩ | ⟨deep, child, found, same⟩ := descent_returns ends
  · rw [Script.events, acts]
    exact .nothing flat
  · rw [same] at ends ⊢
    have cuts : leftOut after = true → false = true := by simp [kept]
    have word := levelScript_isLevel source.layoutSoFar_admits ends cuts
    exact .level deep (.inl ⟨child, found, rfl⟩) word

theorem levelScript_prefix
    (ends : (levelScript source recursive levels depth parent budget).ends = .error failure) :
    ∃ word, IsLevel source.layoutSoFar recursive false parent depth word ∧
      (levelScript source recursive levels depth parent budget).events <+: word := by
  induction levels generalizing depth parent budget with
  | zero => exact ⟨_, isLevel_empty .., List.nil_prefix⟩
  | succ levels ih =>
    obtain nothing | ⟨_, rows, columns, same, counted, counted', inside, acts⟩ :=
      levelScript_fails ends
    · refine ⟨_, isLevel_empty .., ?_⟩
      rw [Script.events, nothing]
      exact List.nil_prefix
    · obtain rfl := Nat.succ.inj same
      have fails : ∀ row budget,
          (descent source recursive levels depth parent row budget).ends = .error failure →
          ∃ word, IsBelow source.layoutSoFar recursive false parent row depth word ∧
            (descent source recursive levels depth parent row budget).events <+: word := by
        intro row budget below
        obtain ⟨deep, nothing | ⟨child, found, same⟩⟩ := descent_fails below
        · obtain ⟨word, isBelow⟩ := exists_isBelow source recursive false parent row depth
          refine ⟨word, isBelow, ?_⟩
          rw [Script.events, nothing]
          exact List.nil_prefix
        · rw [same] at below ⊢
          obtain ⟨word, isLevel, begins⟩ := ih below
          exact ⟨word, .level deep (.inl ⟨child, found, rfl⟩) isLevel, begins⟩
      obtain ⟨word, walked, begins⟩ :=
        rowsScript_prefix (fun _ _ _ => descent_isBelow) fails inside
      rw [Nat.zero_add] at walked
      refine ⟨_, .level (.inl ⟨counted, counted'⟩) walked (.inl rfl), ?_⟩
      rw [Script.events, acts, List.flatMap_cons]
      exact (List.prefix_cons_inj _).mpr (begins.trans (List.prefix_append _ _))

/-! ## Brackets -/

/-- What has begun: a level, the cells of a row, or a row that is to be closed. -/
inductive Open (ν : Type) where
  | level (parent : Option ν) (depth : Int) (rows : Nat)
  | cells (parent : Option ν) (row : Nat) (depth : Int)
  | row (parent : Option ν) (row : Nat) (depth : Int)

/-- Read events with what is open, the innermost first: only the innermost may end. -/
inductive Nests : List (Open ν) → List (Event ν) → List (Open ν) → Prop
  | done {outer : List (Open ν)} : Nests outer [] outer
  | beginLevel {outer left : List (Open ν)} {parent : Option ν} {depth : Int} {rows : Nat}
      {events : List (Event ν)} (more : Nests (.level parent depth rows :: outer) events left) :
      Nests outer (.beginLevel parent depth rows :: events) left
  | beginRow {outer left : List (Open ν)} {parent : Option ν} {row : Nat} {depth : Int}
      {events : List (Event ν)} (more : Nests (.cells parent row depth :: outer) events left) :
      Nests outer (.beginRow parent row depth :: events) left
  | cell {outer left : List (Open ν)} {parent : Option ν} {row column : Nat} {depth : Int}
      {events : List (Event ν)} (more : Nests (.cells parent row depth :: outer) events left) :
      Nests (.cells parent row depth :: outer) (.cell parent row column depth :: events) left
  | endRow {outer left : List (Open ν)} {parent : Option ν} {row : Nat} {depth : Int}
      {events : List (Event ν)} (more : Nests (.row parent row depth :: outer) events left) :
      Nests (.cells parent row depth :: outer) (.endRow parent row depth :: events) left
  | closeRow {outer left : List (Open ν)} {parent : Option ν} {row : Nat} {depth : Int}
      {events : List (Event ν)} (more : Nests outer events left) :
      Nests (.row parent row depth :: outer) (.closeRow parent row depth :: events) left
  | endLevel {outer left : List (Open ν)} {parent : Option ν} {depth : Int} {rows : Nat}
      {events : List (Event ν)} (more : Nests outer events left) :
      Nests (.level parent depth rows :: outer) (.endLevel parent depth rows :: events) left

theorem Nests.append {outer middle inner : List (Open ν)} {events more : List (Event ν)}
    (begins : Nests outer events middle) (ends : Nests middle more inner) :
    Nests outer (events ++ more) inner := by
  induction begins with
  | done => exact ends
  | beginLevel _ ih => exact .beginLevel (ih ends)
  | beginRow _ ih => exact .beginRow (ih ends)
  | cell _ ih => exact .cell (ih ends)
  | endRow _ ih => exact .endRow (ih ends)
  | closeRow _ ih => exact .closeRow (ih ends)
  | endLevel _ ih => exact .endLevel (ih ends)

theorem nests_row (outer : List (Open ν)) (row : Row ν) (columns : Nat) :
    Nests outer (row.events columns) (.row row.parent row.number row.depth :: outer) := by
  have inside : ∀ columns : List Nat, Nests (.cells row.parent row.number row.depth :: outer)
      (columns.map (fun column => Event.cell row.parent row.number column row.depth) ++
        [.endRow row.parent row.number row.depth])
      (.row row.parent row.number row.depth :: outer) := by
    intro columns
    induction columns with
    | nil => exact .endRow .done
    | cons column rest ih => exact .cell ih
  exact .beginRow (inside _)

mutual

theorem IsLevel.nests {parent : Option ν} {depth : Int} {events : List (Event ν)}
    (outer : List (Open ν)) :
    IsLevel layout recursive cut parent depth events → Nests outer events outer
  | .level _ walked _ => .beginLevel ((walked.nests _).append (.endLevel .done))

theorem IsRows.nests {parent : Option ν} {depth : Int} {columns row last : Nat}
    {events : List (Event ν)} (outer : List (Open ν)) :
    IsRows layout recursive cut parent depth columns row last events → Nests outer events outer
  | .done => .done
  | .row under more =>
    (nests_row outer _ _).append ((under.nests _).append (.closeRow (more.nests outer)))

theorem IsBelow.nests {parent : Option ν} {row : Nat} {depth : Int} {events : List (Event ν)}
    (outer : List (Open ν)) :
    IsBelow layout recursive cut parent row depth events → Nests outer events outer
  | .nothing _ => .done
  | .level _ _ level => level.nests outer

end

/-- Every walk is well nested, whatever its source answers. A walk that returns has told a word of
the grammar, in which every beginning is followed by its own end; its levels have the rows and the
columns that the source counts, or the first of these rows where the budget has left rows out. A
walk that fails has told the beginning of a word. -/
theorem walk_well_nested (source : Source ν) (parent : Option ν) (depth : Int) (recursive : Bool)
    (maxDepth : Int) (budget : Option Budget) :
    ∃ events : List (Event ν), ∀ {σ : Type} (see : σ → Event ν → σ) (kept : σ),
      match walk source (watching see) parent depth recursive maxDepth ⟨budget, kept⟩ with
      | .ok truncated after => after.kept = events.foldl see kept ∧
        truncated = leftOut after.budget ∧
        IsLevel source.layout recursive truncated parent depth events ∧ Nests [] events []
      | .error _ after => after.kept = events.foldl see kept ∧
        ∃ word, IsLevel source.layoutSoFar recursive false parent depth word ∧ events <+: word := by
  refine ⟨(script source parent depth recursive maxDepth budget).events, fun see kept => ?_⟩
  cases ends : (script source parent depth recursive maxDepth budget).ends with
  | ok left =>
    have word := levelScript_isLevel source.layout_admits ends id
    rw [walk_of_ends_ok ends see kept]
    exact ⟨rfl, rfl, word, word.nests []⟩
  | error failure =>
    obtain ⟨after, walked, told⟩ := walk_of_ends_error ends see kept
    rw [walked]
    exact ⟨told, levelScript_prefix ends⟩

end Walk

end TreeTable

import TreeTable.Proofs.Walk.Told
import TreeTable.Proofs.Walk.TreeScript

namespace TreeTable

namespace Item

mutual

def heightBelow : Item → Nat
  | ⟨_, children, _⟩ => height children

/-- How many levels these rows take up with all rows below them. -/
def height : List Item → Nat
  | [] => 0
  | item :: rest => max (1 + heightBelow item) (height rest)

end

mutual

theorem placesBelow_within (deepest depth : Int) : (item : Item) →
    ((depth ≤ deepest ∧ ∀ place ∈ placesBelow depth item, place.depth < deepest) ↔
      depth + heightBelow item ≤ deepest)
  | ⟨values, children, roles⟩ => by
    rw [placesBelow, heightBelow]
    exact placesOf_within deepest _ 0 depth children

theorem placesOf_within (deepest : Int) (parent : Option TreeCell) (row : Nat) (depth : Int) :
    (items : List Item) →
    ((depth ≤ deepest ∧ ∀ place ∈ placesOf true parent row depth items, place.depth < deepest) ↔
      depth + height items ≤ deepest)
  | [] => by simp [placesOf, height]
  | item :: rest => by
    have below := placesBelow_within deepest (depth + 1) item
    have others := placesOf_within deepest parent (row + 1) depth rest
    rw [placesOf, if_pos rfl, List.forall_mem_cons, List.forall_mem_append, height]
    constructor
    · rintro ⟨enters, first, inside, after⟩
      have deeper := below.mp ⟨first, inside⟩
      have wider := others.mp ⟨enters, after⟩
      omega
    · intro within
      obtain ⟨first, inside⟩ := below.mpr (by omega)
      obtain ⟨enters, after⟩ := others.mpr (by omega)
      exact ⟨enters, first, inside, after⟩

end

end Item

def Tree.visited (tree : Tree) (recursive : Bool) (parent : Option TreeCell) (depth : Int)
    (budget : Option Budget) : List RowPlace :=
  (tree.preorder recursive parent depth).take (Walk.room budget (tree.rowsUnder recursive parent))

theorem Tree.visited_unlimited (tree : Tree) (recursive : Bool) (parent : Option TreeCell)
    (depth : Int) : tree.visited recursive parent depth none =
      tree.preorder recursive parent depth := by
  rw [visited, ← length_preorder tree recursive parent depth]
  exact List.take_length

namespace Walk

theorem upTo_of_any {α : Type} {stops : α → Bool} {list : List α}
    (stopped : list.any stops = true) :
    ∃ earlier first later, list = earlier ++ first :: later ∧
      (∀ other ∈ earlier, stops other = false) ∧ stops first = true ∧
      upTo stops list = earlier ++ [first] := by
  induction list with
  | nil => cases stopped
  | cons head rest ih =>
    cases here : stops head with
    | true => exact ⟨[], head, rest, rfl, List.forall_mem_nil _, here, by simp [upTo, here]⟩
    | false =>
      rw [List.any_cons, here, Bool.false_or] at stopped
      obtain ⟨earlier, first, later, rfl, goes, stops', ends⟩ := ih stopped
      refine ⟨head :: earlier, first, later, rfl, ?_, stops', by simp [upTo, here, ends]⟩
      exact List.forall_mem_cons.mpr ⟨here, goes⟩

variable {tree : Tree} {parent : Option TreeCell} {depth maxDepth : Int} {recursive : Bool}
  {budget left : Option Budget} {failure : Failure}

theorem script_covers_visited (enters : depth ≤ maxDepth) :
    (script tree.source parent depth recursive maxDepth budget).rows =
        (upTo (isDeep recursive maxDepth) (tree.visited recursive parent depth budget)).map
          RowPlace.asRow ∧
      (script tree.source parent depth recursive maxDepth budget).ends =
        if (tree.visited recursive parent depth budget).any (isDeep recursive maxDepth) then
          .error .tooDeep
        else .ok (settle budget (tree.rowsUnder recursive parent)) := by
  obtain ⟨rows, ends⟩ := script_covers tree parent enters recursive budget
  rw [Tree.length_preorder] at rows ends
  exact ⟨rows, ends⟩

theorem rowEvents_suffix {place : RowPlace} {earlier : List RowPlace}
    (ends : (script tree.source parent depth recursive maxDepth budget).ends = .error failure)
    (rows : (script tree.source parent depth recursive maxDepth budget).rows =
      (earlier ++ [place]).map RowPlace.asRow) :
    tree.rowEvents place <:+
      (script tree.source parent depth recursive maxDepth budget).events := by
  have counted := script_counted tree.source parent depth recursive maxDepth budget
  rw [Script.events]
  rw [Script.rows] at rows
  rw [script] at counted rows ends ⊢
  obtain nothing | ⟨before, row, columns, acts⟩ := levelScript_endsAtRow ends
  · rw [nothing, List.map_append] at rows
    simp at rows
  · rw [acts] at counted rows ⊢
    have count : tree.source.columns row.parent = .ok columns :=
      counted (.row row columns) (by simp)
    rw [columns_eq, Except.ok.injEq] at count
    have last : row = place.asRow := by
      rw [List.filterMap_append, List.map_append] at rows
      exact List.singleton_inj.mp (List.append_inj_right' rows rfl)
    rw [List.flatMap_append, List.flatMap_singleton, ← count, last]
    exact List.suffix_append _ _

theorem script_at_ceiling
    (ends : (script tree.source parent depth recursive maxDepth budget).ends = .error failure) :
    failure = .tooDeep ∧
    (maxDepth < depth ∧ (script tree.source parent depth recursive maxDepth budget).events = [] ∨
    depth ≤ maxDepth ∧ recursive = true ∧ ∃ earlier place later,
      tree.visited recursive parent depth budget = earlier ++ place :: later ∧
      (∀ before ∈ earlier, before.depth < maxDepth) ∧ maxDepth ≤ place.depth ∧
      (script tree.source parent depth recursive maxDepth budget).rows =
        (earlier ++ [place]).map RowPlace.asRow) := by
  rcases Int.lt_or_le maxDepth depth with below | enters
  · rw [script_of_lt tree.source parent below] at ends ⊢
    exact ⟨(Except.error.inj ends).symm, .inl ⟨below, rfl⟩⟩
  · obtain ⟨rows, ends'⟩ := script_covers_visited enters
    rw [ends'] at ends
    split at ends
    case isFalse => cases ends
    case isTrue stopped =>
      obtain ⟨earlier, place, later, whole, goes, stops, told⟩ := upTo_of_any stopped
      rw [isDeep, Bool.and_eq_true, decide_eq_true_eq] at stops
      refine ⟨(Except.error.inj ends).symm, .inr ⟨enters, stops.1, earlier, place, later, whole,
        fun before among => ?_, stops.2, told ▸ rows⟩⟩
      simpa [isDeep, stops.1] using goes before among

theorem script_above_ceiling
    (ends : (script tree.source parent depth recursive maxDepth budget).ends = .ok left) :
    depth ≤ maxDepth ∧
    (recursive = true → ∀ place ∈ tree.visited recursive parent depth budget,
      place.depth < maxDepth) ∧
    (script tree.source parent depth recursive maxDepth budget).rows =
      (tree.visited recursive parent depth budget).map RowPlace.asRow := by
  rcases Int.lt_or_le maxDepth depth with below | enters
  · rw [script_of_lt tree.source parent below] at ends
    cases ends
  · obtain ⟨rows, ends'⟩ := script_covers_visited enters
    rw [ends'] at ends
    split at ends
    case isTrue => cases ends
    case isFalse goes =>
      rw [Bool.not_eq_true] at goes
      rw [upTo_of_any_eq_false goes] at rows
      refine ⟨enters, fun deep place among => ?_, rows⟩
      simpa [isDeep, deep] using List.any_eq_false.mp goes place among

/-- A walk of a tree fails exactly if it begins below its deepest level, or is to go on below rows
and comes, as far as its budget reaches, to a row on that level; and it fails for its depth alone.
Then it has told nothing, or the rows up to the first such row, and nothing after that row in full.
Without a budget it succeeds exactly if the levels that it may enter are as many as the tree is
high. -/
theorem fails_at_ceiling (tree : Tree) (parent : Option TreeCell) (depth : Int) (recursive : Bool)
    (maxDepth : Int) (budget : Option Budget) :
    let visited := tree.visited recursive parent depth budget
    ∃ events : List (Event TreeCell), ∀ {σ : Type} (see : σ → Event TreeCell → σ) (kept : σ),
      let walked := walk tree.source (watching see) parent depth recursive maxDepth ⟨budget, kept⟩
      ((∃ failure after, walked = .error failure after) ↔
        maxDepth < depth ∨ recursive = true ∧ ∃ place ∈ visited, maxDepth ≤ place.depth) ∧
      (∀ failure after, walked = .error failure after →
        failure = .tooDeep ∧ failure.kind = .inconsistent ∧ after.kept = events.foldl see kept ∧
        (maxDepth < depth ∧ events = [] ∨
        depth ≤ maxDepth ∧ ∃ earlier place later, visited = earlier ++ place :: later ∧
          (∀ before ∈ earlier, before.depth < maxDepth) ∧ maxDepth ≤ place.depth ∧
          events.filterMap Event.row? = (earlier ++ [place]).map RowPlace.asRow ∧
          tree.rowEvents place <:+ events)) ∧
      (∀ truncated after, walked = .ok truncated after → after.kept = events.foldl see kept ∧
        events.filterMap Event.row? = visited.map RowPlace.asRow) ∧
      (budget = none → recursive = true → ((∃ truncated after, walked = .ok truncated after) ↔
        depth + Item.height (tree.level false parent) ≤ maxDepth)) := by
  intro visited
  refine ⟨(script tree.source parent depth recursive maxDepth budget).events, fun see kept => ?_⟩
  have whole : depth + Item.height (tree.level false parent) ≤ maxDepth ↔
      depth ≤ maxDepth ∧ ∀ place ∈ tree.visited true parent depth none, place.depth < maxDepth := by
    rw [← Item.placesOf_within maxDepth parent 0 depth, Tree.visited_unlimited]
    rfl
  cases ends : (script tree.source parent depth recursive maxDepth budget).ends with
  | error failure =>
    obtain ⟨after, walked, kept⟩ := walk_of_ends_error ends see kept
    rw [walked]
    obtain ⟨rfl, found⟩ := script_at_ceiling ends
    refine ⟨iff_of_true ⟨_, _, rfl⟩ ?_, ?_, nofun, ?_⟩
    · obtain ⟨below, -⟩ | ⟨-, deep, earlier, place, later, visits, -, stops, -⟩ := found
      · exact .inl below
      · exact .inr ⟨deep, place, by simp [visited, visits], stops⟩
    · rintro _ _ ⟨⟩
      refine ⟨rfl, rfl, kept, found.imp_right ?_⟩
      rintro ⟨enters, -, earlier, place, later, visits, above, stops, rows⟩
      refine ⟨enters, earlier, place, later, visits, above, stops, ?_, rowEvents_suffix ends rows⟩
      rw [Script.rows_events, rows]
    · rintro rfl rfl
      refine iff_of_false nofun fun within => ?_
      obtain ⟨enters, above⟩ := whole.mp within
      obtain ⟨below, -⟩ | ⟨-, -, earlier, place, later, visits, -, stops, -⟩ := found
      · omega
      · have := above place (by simp [visits])
        omega
  | ok left =>
    rw [walk_of_ends_ok ends see kept]
    obtain ⟨enters, above, rows⟩ := script_above_ceiling ends
    refine ⟨iff_of_false (fun ⟨_, _, same⟩ => nomatch same) ?_, fun _ _ same => (nomatch same), ?_,
      ?_⟩
    · rintro (below | ⟨deep, place, among, stops⟩)
      · omega
      · have := above deep place among
        omega
    · rintro _ _ ⟨⟩
      exact ⟨rfl, by rw [Script.rows_events, rows]⟩
    · rintro rfl rfl
      exact iff_of_true ⟨_, _, rfl⟩ (whole.mpr ⟨enters, above rfl⟩)

end Walk

end TreeTable

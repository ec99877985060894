import TreeTable.Proofs.Walk.Ceiling

namespace TreeTable

open Walk

namespace Item

mutual

theorem placesBelow_stand (tree : Tree) (depth : Int) : (item : Item) →
    ∀ place ∈ placesBelow depth item, place.row < (tree.level false place.parent).length
  | ⟨values, children, roles⟩ => by
    rw [placesBelow]
    exact placesOf_stand tree true (some ⟨⟨values, children, roles⟩, .int 0⟩) 0 depth children rfl

theorem placesOf_stand (tree : Tree) (recursive : Bool) (parent : Option TreeCell) (row : Nat)
    (depth : Int) : (items : List Item) → (tree.level false parent).drop row = items →
    ∀ place ∈ placesOf recursive parent row depth items,
      place.row < (tree.level false place.parent).length
  | [], _ => nofun
  | item :: rest, suffix => by
    obtain ⟨found, further⟩ := of_drop_eq_cons suffix
    rw [placesOf, List.forall_mem_cons, List.forall_mem_append]
    refine ⟨(List.getElem?_eq_some_iff.mp found).1, ?_, ?_⟩
    · cases recursive with
      | false => exact nofun
      | true => exact placesBelow_stand tree (depth + 1) item
    · exact placesOf_stand tree recursive parent (row + 1) depth rest further

end

end Item

theorem Walk.mem_of_mem_upTo {α : Type} {stops : α → Bool} {list : List α} {one : α}
    (among : one ∈ upTo stops list) : one ∈ list := by
  induction list with
  | nil => cases among
  | cons first rest ih =>
    rw [upTo] at among
    split at among
    · rw [List.mem_singleton.mp among]
      exact List.mem_cons_self
    · rcases List.mem_cons.mp among with rfl | among
      · exact List.mem_cons_self
      · exact List.mem_cons_of_mem _ (ih among)

namespace Tree

def reached (tree : Tree) (deepest : Int) (budget : Option Budget) : List RowPlace :=
  if 0 ≤ deepest then upTo (isDeep true deepest) (tree.visited true none 0 budget) else []

variable {tree : Tree} {deepest : Int} {budget : Option Budget}

theorem stands_of_reached {place : RowPlace} (among : place ∈ tree.reached deepest budget) :
    place.row < (tree.level false place.parent).length := by
  unfold reached at among
  split at among
  · exact Item.placesOf_stand tree true none 0 0 tree.items rfl place
      (List.mem_of_mem_take (mem_of_mem_upTo among))
  · cases among

theorem reached_of_no_rows (empty : tree.items = []) : tree.reached deepest budget = [] := by
  simp [reached, visited, preorder, level, empty, Item.placesOf, upTo]

theorem script_reached (tree : Tree) (deepest : Int) (budget : Option Budget) :
    (script tree.source none 0 true deepest budget).rows =
        (tree.reached deepest budget).map RowPlace.asRow ∧
      ((script tree.source none 0 true deepest budget).ends = .error .tooDeep ∨
        ∃ left, (script tree.source none 0 true deepest budget).ends = .ok left) := by
  unfold reached
  split
  · next enters =>
    obtain ⟨rows, ends⟩ := script_covers_visited enters
    refine ⟨rows, ?_⟩
    rw [ends]
    split
    · exact .inl rfl
    · exact .inr ⟨_, rfl⟩
  · next below =>
    rw [script_of_lt tree.source none (Int.not_le.mp below)]
    exact ⟨rfl, .inl rfl⟩

end Tree

end TreeTable

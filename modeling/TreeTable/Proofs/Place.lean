import TreeTable.Proofs.Outcome
import TreeTable.Source.Item

namespace TreeTable

def nth? {α : Type} (list : List α) (position : Int) : Option α :=
  if 0 ≤ position then list[position.toNat]? else none

theorem nth?_map {α β : Type} (change : α → β) (list : List α) (position : Int) :
    nth? (list.map change) position = (nth? list position).map change := by
  unfold nth?
  split <;> simp

theorem Value.lookIn_int {α : Type} (position : Int) (elements : Array α) :
    Value.lookIn (.int position) elements = .ok (nth? elements.toList position) := by
  simp only [lookIn, isWithin, asIndex, ok_bind, nth?, pure, Except.pure]
  by_cases front : 0 ≤ position
  · by_cases within : position < elements.size <;> simp [front, within]
  · simp [front]

theorem Value.lookIn_nat {α : Type} (position : Nat) (elements : Array α) :
    Value.lookIn (.int position) elements = .ok elements[position]? := by
  rw [lookIn_int, nth?, if_pos (Int.natCast_nonneg position), Int.toNat_natCast,
    Array.getElem?_toList]

theorem place?_lt {length index : Nat} {position : Int}
    (placed : place? length position = some index) : index < length := by
  grind [place?]

theorem pick?_eq {α : Type} (list : List α) (position : Int) :
    pick? list position = (place? list.length position).bind fun index => list[index]? := by
  unfold pick?
  by_cases front : 0 ≤ position
  · rw [if_pos front]
    by_cases inside : position < list.length
    · have placed : place? list.length position = some position.toNat := by
        simp [place?]
        omega
      rw [placed]
      rfl
    · have unplaced : place? list.length position = none := by
        simp [place?]
        omega
      rw [unplaced, List.getElem?_eq_none (by omega)]
      rfl
  · rw [if_neg front]

end TreeTable

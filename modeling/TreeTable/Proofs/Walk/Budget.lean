import TreeTable.Walk

namespace TreeTable.Walk

variable {σ : Type}

/-- How many of so many more rows a budget has room for. -/
def room : Option Budget → Nat → Nat
  | none, rows => rows
  | some budget, rows =>
    if budget.truncated then 0
    else match budget.cap with
      | none => rows
      | some cap => min rows (cap - budget.count).toNat

def charge (budget : Budget) (rows taken : Nat) : Budget :=
  { budget with
    count := budget.count + taken
    truncated := budget.truncated || decide (taken < rows) }

def settle (budget : Option Budget) (rows : Nat) : Option Budget :=
  budget.map fun before => charge before rows (room budget rows)

theorem room_le (budget : Option Budget) (rows : Nat) : room budget rows ≤ rows := by
  unfold room
  split
  · exact Nat.le_refl _
  · split
    · exact Nat.zero_le _
    · split
      · exact Nat.le_refl _
      · exact Nat.min_le_left ..

theorem charge_zero (budget : Budget) : charge budget 0 0 = budget := by
  simp [charge]

theorem charge_charge (budget : Budget) {rows taken more further : Nat} (within : taken ≤ rows)
    (beyond : further ≤ more) :
    charge (charge budget rows taken) more further =
      charge budget (rows + more) (taken + further) := by
  have less : taken + further < rows + more ↔ taken < rows ∨ further < more := by omega
  simp [charge, less, Int.add_assoc, Bool.or_assoc]

theorem settle_zero (budget : Option Budget) : settle budget 0 = budget := by
  have nothing : room budget 0 = 0 := Nat.le_zero.mp (room_le budget 0)
  cases budget with
  | none => rfl
  | some before => rw [settle, nothing, Option.map_some, charge_zero]

theorem room_settle_of_lt {budget : Option Budget} {rows : Nat} (less : room budget rows < rows)
    (more : Nat) : room (settle budget rows) more = 0 := by
  cases budget with
  | none => exact absurd less (Nat.lt_irrefl _)
  | some before =>
    have stopped : (charge before rows (room (some before) rows)).truncated = true := by
      simp [charge, less]
    exact if_pos stopped

theorem room_add (budget : Option Budget) (rows more : Nat) :
    room budget (rows + more) = room budget rows + room (settle budget rows) more := by
  cases budget with
  | none => rfl
  | some before =>
    obtain ⟨cap, count, truncated⟩ := before
    cases truncated with
    | true => simp [room, settle, charge]
    | false =>
      cases cap with
      | none => simp [room, settle, charge]
      | some cap =>
        simp only [room, settle, charge, Option.map_some, Bool.false_or, Bool.false_eq_true,
          if_false, decide_eq_true_eq]
        split <;> omega

theorem settle_settle (budget : Option Budget) (rows more : Nat) :
    settle (settle budget rows) more = settle budget (rows + more) := by
  cases budget with
  | none => rfl
  | some before =>
    have twice := charge_charge before (room_le (some before) rows)
      (room_le (settle (some before) rows) more)
    rw [← room_add] at twice
    exact congrArg some twice

theorem settle_settle_of_lt {budget : Option Budget} {rows : Nat} (less : room budget rows < rows)
    (more : Nat) : settle (settle budget rows) more = settle budget rows := by
  cases budget with
  | none => rfl
  | some before =>
    have nothing := room_settle_of_lt less more
    have stopped : charge (charge before rows (room (some before) rows)) more 0 =
        charge before rows (room (some before) rows) := by
      simp [charge, less]
    rw [← nothing] at stopped
    exact congrArg some stopped

theorem take_append_room {α : Type} (budget : Option Budget) (first second : List α) :
    (first ++ second).take (room budget (first ++ second).length) =
      first.take (room budget first.length) ++
        second.take (room (settle budget first.length) second.length) := by
  have within := room_le budget first.length
  rw [List.length_append, room_add, List.take_append]
  -- either the first part has used the budget up, or all of it was taken
  by_cases less : room budget first.length < first.length
  · have nothing := room_settle_of_lt less second.length
    rw [nothing, Nat.add_zero, Nat.sub_eq_zero_of_le within]
  · have all : room budget first.length = first.length := by omega
    rw [all, List.take_of_length_le (Nat.le_add_right ..), Nat.add_sub_cancel_left,
      List.take_length]

theorem admitted_eq (before : Progress σ) :
    admitted before = .ok (decide (room before.budget 1 = 1))
      { before with budget := settle before.budget 1 } := by
  obtain ⟨budget, kept⟩ := before
  cases budget with
  | none => rfl
  | some budget =>
    obtain ⟨cap, count, truncated⟩ := budget
    cases truncated with
    | true => simp [admitted, Budget.take, Budget.exhausted, settle, charge, room]
    | false =>
      cases cap with
      | none => rfl
      | some cap =>
        by_cases full : cap ≤ count
        · have none : (cap - count).toNat = 0 := by omega
          simp [admitted, Budget.take, Budget.exhausted, settle, charge, room, full, none]
        · have some : min 1 (cap - count).toNat = 1 := by omega
          simp [admitted, Budget.take, Budget.exhausted, settle, charge, room, full, some]

end TreeTable.Walk

import TreeTable.Proofs.Walk.Told

namespace TreeTable

variable {ν : Type}

/-- A source that goes on for ever: every level has a first row, and a level below that. -/
structure Source.Endless (source : Source ν) : Prop where
  rows : ∀ parent, ∃ more : Nat, source.rowCount parent = .ok (more + 1 : Nat)
  columns : ∀ parent, ∃ columns : Nat, source.columnCount parent = .ok columns
  below : ∀ parent, ∃ child, source.cell (.int 0) (.int 0) parent = .ok child

namespace Source.Endless

variable {source : Source ν}

theorem height (endless : source.Endless) (parent : Option ν) :
    ∃ more, source.rows parent = .ok (more + 1) := by
  obtain ⟨more, count⟩ := endless.rows parent
  refine ⟨more, ?_⟩
  rw [Source.rows, count, ok_bind, checked, if_neg (by omega)]
  rfl

theorem width (endless : source.Endless) (parent : Option ν) :
    Answers (fun _ => True) (source.columns parent) := by
  obtain ⟨columns, count⟩ := endless.columns parent
  refine ⟨columns, ?_, trivial⟩
  rw [Source.columns, count, ok_bind, checked, if_neg (by omega)]
  rfl

end Source.Endless

namespace Walk

def Row.spot (row : Row ν) : Nat × Int := (row.number, row.depth)

def firstRows (depth : Int) (levels : Nat) : List (Nat × Int) :=
  (List.range levels).map fun below : Nat => (0, depth + below)

theorem firstRows_succ (depth : Int) (levels : Nat) :
    firstRows depth (levels + 1) = (0, depth) :: firstRows (depth + 1) levels := by
  simp [firstRows, List.range_succ_eq_map, Function.comp_def, Int.add_assoc, Int.add_comm 1]

theorem Script.rows_bind_of_ok {α β : Type} {first : Script ν α} {answer : α}
    (ends : first.ends = .ok answer) (next : α → Script ν β) :
    (first >>= next).rows = first.rows ++ (next answer).rows := by
  rw [bind_of_ok ends]
  exact List.filterMap_append

theorem Script.rows_bind_of_error {α β : Type} {first : Script ν α} {failure : Failure}
    (ends : first.ends = .error failure) (next : α → Script ν β) :
    (first >>= next).rows = first.rows := by
  rw [bind_of_error ends]
  rfl

theorem Script.rows_act_bind {α : Type} {act : Act ν} (isRow : act.row? = none)
    (next : Unit → Script ν α) : (Script.act act >>= next).rows = (next ()).rows :=
  List.filterMap_cons_none isRow

/-- A script that goes straight down: it comes to the first rows of so many levels as its budget has
room for, and fails if there is room for all of them. -/
structure GoesDown (told : Script ν (Option Budget)) (depth : Int) (levels : Nat)
    (budget : Option Budget) : Prop where
  rows : told.rows.map Row.spot = firstRows depth (room budget levels)
  ends : told.ends =
    if room budget levels < levels then .ok (settle budget levels) else .error .tooDeep

namespace GoesDown

variable {told : Script ν (Option Budget)} {depth : Int} {levels : Nat} {budget : Option Budget}

theorem none (depth : Int) (budget : Option Budget) :
    GoesDown (Script.ask (.error .tooDeep) : Script ν (Option Budget)) depth 0 budget := by
  have nothing : room budget 0 = 0 := Nat.le_zero.mp (room_le budget 0)
  constructor
  · rw [nothing]
    rfl
  · rw [nothing]
    rfl

theorem full (full : room budget 1 = 0) (depth : Int) (levels : Nat) :
    GoesDown (pure (settle budget 1) : Script ν (Option Budget)) depth (levels + 1) budget := by
  have less : room budget 1 < 1 := by omega
  have nothing : room budget (levels + 1) = 0 := by
    rw [Nat.add_comm, room_add, full, room_settle_of_lt less]
  constructor
  · rw [nothing]
    rfl
  · rw [nothing, if_pos (Nat.succ_pos levels), Nat.add_comm, ← settle_settle,
      settle_settle_of_lt less]
    rfl

theorem row (fits : room budget 1 = 1) (goes : GoesDown told (depth + 1) levels (settle budget 1))
    {next : Option Budget → Script ν (Option Budget)}
    (stays : ∀ left, room left 1 = 0 → settle left 1 = left →
      (next left).rows = [] ∧ (next left).ends = .ok left)
    (parent : Option ν) (columns : Nat) :
    GoesDown (Script.act (.row ⟨parent, 0, depth⟩ columns) >>= fun _ => told >>= next) depth
      (levels + 1) budget := by
  obtain ⟨rows, ends⟩ := goes
  have total : room budget (levels + 1) = room (settle budget 1) levels + 1 := by
    rw [Nat.add_comm, room_add, fits, Nat.add_comm]
  rw [settle_settle, Nat.add_comm 1] at ends
  have shown : ∀ rest : Script ν (Option Budget),
      (Script.act (.row ⟨parent, 0, depth⟩ columns) >>= fun _ => rest).rows =
        ⟨parent, 0, depth⟩ :: rest.rows := fun _ => rfl
  have ended : ∀ rest : Script ν (Option Budget),
      (Script.act (.row ⟨parent, 0, depth⟩ columns) >>= fun _ => rest).ends = rest.ends :=
    fun _ => rfl
  by_cases stops : room (settle budget 1) levels < levels
  · rw [if_pos stops] at ends
    have less : room budget (levels + 1) < levels + 1 := by omega
    obtain ⟨nothing, kept⟩ := stays _ (room_settle_of_lt less 1) (settle_settle_of_lt less 1)
    have all : (told >>= next).rows = told.rows := by
      rw [Script.rows_bind_of_ok ends, nothing, List.append_nil]
    constructor
    · rw [shown, all, List.map_cons, rows, total, firstRows_succ]
      rfl
    · rw [ended, if_pos less, Script.bind_of_ok ends]
      exact kept
  · rw [if_neg stops] at ends
    constructor
    · rw [shown, Script.rows_bind_of_error ends, List.map_cons, rows, total, firstRows_succ]
      rfl
    · rw [ended, Script.bind_of_error ends, if_neg (by omega)]

theorem level (goes : GoesDown told depth levels budget) {entered left : Act ν}
    (isRow : entered.row? = Option.none) (isRow' : left.row? = Option.none) :
    GoesDown (Script.act entered >>= fun _ => told >>= fun after =>
      Script.act left >>= fun _ => pure after) depth levels budget := by
  obtain ⟨rows, ends⟩ := goes
  cases ended : told.ends with
  | error failure =>
    constructor
    · rw [Script.rows_act_bind isRow, Script.rows_bind_of_error ended, rows]
    · exact (congrArg Script.ends (Script.bind_of_error ended _)).trans (ended.symm.trans ends)
  | ok after =>
    constructor
    · rw [Script.rows_act_bind isRow, Script.rows_bind_of_ok ended, Script.rows_act_bind isRow']
      exact (congrArg (List.map Row.spot) (List.append_nil _)).trans rows
    · exact (congrArg Script.ends (Script.bind_of_ok ended _)).trans (ended.symm.trans ends)

end GoesDown

theorem levelScript_goesDown {source : Source ν} (endless : source.Endless) (levels : Nat)
    (depth : Int) (parent : Option ν) (budget : Option Budget) :
    GoesDown (levelScript source true levels depth parent budget) depth levels budget := by
  -- on the levels that may still be entered, as the source itself has no end
  induction levels generalizing depth parent budget with
  | zero => exact .none depth budget
  | succ levels ih =>
    obtain ⟨more, rows⟩ := endless.height parent
    obtain ⟨columns, columns', -⟩ := endless.width parent
    obtain ⟨child, found⟩ := endless.below parent
    rw [levelScript, rows, columns', Script.ask_ok_bind, Script.ask_ok_bind]
    refine .level ?_ rfl rfl
    rw [rowsScript]
    by_cases fits : room budget 1 = 1
    · rw [if_pos fits, if_pos rfl, Int.natCast_zero, found, Script.ask_ok_bind]
      refine (ih (depth + 1) (some child) (settle budget 1)).row fits (fun left full kept => ?_)
        parent columns
      cases more with
      | zero => exact ⟨rfl, rfl⟩
      | succ more =>
        rw [rowsScript, if_neg (by omega), kept]
        exact ⟨rfl, rfl⟩
    · have none : room budget 1 = 0 := by
        have := room_le budget 1
        omega
      rw [if_neg fits]
      exact .full none depth levels

end Walk

end TreeTable

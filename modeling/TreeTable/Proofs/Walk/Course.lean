import TreeTable.Proofs.Walk.Script

namespace TreeTable.Walk

variable {ν α β : Type}

theorem Script.bind_ends_error {first : Script ν α} {next : α → Script ν β} {failure : Failure}
    (ends : (first >>= next).ends = .error failure) :
    first.ends = .error failure ∧ (first >>= next).acts = first.acts ∨
      ∃ middle, first.ends = .ok middle ∧ (next middle).ends = .error failure ∧
        (first >>= next).acts = first.acts ++ (next middle).acts := by
  cases ended : first.ends with
  | error failure' =>
    rw [bind_of_error ended] at ends ⊢
    exact .inl ⟨congrArg _ (Except.error.inj ends), rfl⟩
  | ok middle =>
    rw [bind_of_ok ended] at ends ⊢
    exact .inr ⟨middle, rfl, ends, rfl⟩

section

variable {descend : Nat → Option Budget → Script ν (Option Budget)} {parent : Option ν}
  {columns row left : Nat} {depth : Int} {budget after : Option Budget} {failure : Failure}

theorem rowsScript_returns
    (ends : (rowsScript descend parent columns depth row (left + 1) budget).ends = .ok after) :
    (room budget 1 = 1 ∧ ∃ middle, (descend row (settle budget 1)).ends = .ok middle ∧
      (rowsScript descend parent columns depth (row + 1) left middle).ends = .ok after ∧
      (rowsScript descend parent columns depth row (left + 1) budget).acts =
        .row ⟨parent, row, depth⟩ columns :: ((descend row (settle budget 1)).acts ++
          .close ⟨parent, row, depth⟩ ::
            (rowsScript descend parent columns depth (row + 1) left middle).acts)) ∨
    room budget 1 = 0 ∧ after = settle budget 1 ∧
      (rowsScript descend parent columns depth row (left + 1) budget).acts = [] := by
  rw [rowsScript] at ends ⊢
  by_cases fits : room budget 1 = 1
  · rw [if_pos fits] at ends ⊢
    obtain ⟨_, -, ends, shown⟩ := Script.bind_ends_ok ends
    obtain ⟨middle, under, ends, descended⟩ := Script.bind_ends_ok ends
    obtain ⟨_, -, ends, closed⟩ := Script.bind_ends_ok ends
    refine .inl ⟨fits, middle, under, ends, ?_⟩
    rw [shown, descended, closed]
    rfl
  · have full : room budget 1 = 0 := by
      have := room_le budget 1
      omega
    rw [if_neg fits] at ends ⊢
    exact .inr ⟨full, (Except.ok.inj ends).symm, rfl⟩

theorem rowsScript_fails
    (ends : (rowsScript descend parent columns depth row (left + 1) budget).ends =
      .error failure) :
    room budget 1 = 1 ∧
    ((descend row (settle budget 1)).ends = .error failure ∧
      (rowsScript descend parent columns depth row (left + 1) budget).acts =
        .row ⟨parent, row, depth⟩ columns :: (descend row (settle budget 1)).acts ∨
    ∃ middle, (descend row (settle budget 1)).ends = .ok middle ∧
      (rowsScript descend parent columns depth (row + 1) left middle).ends = .error failure ∧
      (rowsScript descend parent columns depth row (left + 1) budget).acts =
        .row ⟨parent, row, depth⟩ columns :: ((descend row (settle budget 1)).acts ++
          .close ⟨parent, row, depth⟩ ::
            (rowsScript descend parent columns depth (row + 1) left middle).acts)) := by
  rw [rowsScript] at ends ⊢
  by_cases fits : room budget 1 = 1
  · rw [if_pos fits] at ends ⊢
    refine ⟨fits, ?_⟩
    obtain ⟨shows, -⟩ | ⟨_, -, ends, shown⟩ := Script.bind_ends_error ends
    · cases shows
    obtain ⟨fails, descended⟩ | ⟨middle, under, ends, descended⟩ := Script.bind_ends_error ends
    · refine .inl ⟨fails, ?_⟩
      rw [shown, descended]
      rfl
    obtain ⟨closes, -⟩ | ⟨_, -, ends, closed⟩ := Script.bind_ends_error ends
    · cases closes
    refine .inr ⟨middle, under, ends, ?_⟩
    rw [shown, descended, closed]
    rfl
  · rw [if_neg fits] at ends
    cases ends

end

def descent (source : Source ν) (recursive : Bool) (levels : Nat) (depth : Int)
    (parent : Option ν) (row : Nat) (budget : Option Budget) : Script ν (Option Budget) :=
  if recursive then do
    let child ← Script.ask (source.cell (.int row) (.int 0) parent)
    levelScript source recursive levels (depth + 1) (some child) budget
  else pure budget

def insideScript (source : Source ν) (recursive : Bool) (levels : Nat) (depth : Int)
    (parent : Option ν) (columns row left : Nat) (budget : Option Budget) :
    Script ν (Option Budget) :=
  rowsScript (descent source recursive levels depth parent) parent columns depth row left budget

variable {source : Source ν} {recursive : Bool} {levels : Nat} {depth : Int} {parent : Option ν}
  {row : Nat} {budget after : Option Budget} {failure : Failure}

theorem descent_returns
    (ends : (descent source recursive levels depth parent row budget).ends = .ok after) :
    (recursive = false ∧ after = budget ∧
      (descent source recursive levels depth parent row budget).acts = []) ∨
    recursive = true ∧ ∃ child, source.cell (.int row) (.int 0) parent = .ok child ∧
      descent source recursive levels depth parent row budget =
        levelScript source recursive levels (depth + 1) (some child) budget := by
  unfold descent at ends ⊢
  cases recursive with
  | false => exact .inl ⟨rfl, (Except.ok.inj ends).symm, rfl⟩
  | true =>
    rw [if_pos rfl] at ends ⊢
    cases found : source.cell (.int row) (.int 0) parent with
    | error failure =>
      rw [found] at ends
      cases ends
    | ok child => exact .inr ⟨rfl, child, rfl, rfl⟩

theorem descent_fails
    (ends : (descent source recursive levels depth parent row budget).ends = .error failure) :
    recursive = true ∧
    ((descent source recursive levels depth parent row budget).acts = [] ∨
    ∃ child, source.cell (.int row) (.int 0) parent = .ok child ∧
      descent source recursive levels depth parent row budget =
        levelScript source recursive levels (depth + 1) (some child) budget) := by
  unfold descent at ends ⊢
  cases recursive with
  | false => cases ends
  | true =>
    rw [if_pos rfl]
    refine ⟨rfl, ?_⟩
    cases source.cell (.int row) (.int 0) parent with
    | error failure => exact .inl rfl
    | ok child => exact .inr ⟨child, rfl, rfl⟩

theorem levelScript_returns
    (ends : (levelScript source recursive levels depth parent budget).ends = .ok after) :
    ∃ more rows columns, levels = more + 1 ∧ source.rows parent = .ok rows ∧
      source.columns parent = .ok columns ∧
      (insideScript source recursive more depth parent columns 0 rows budget).ends = .ok after ∧
      (levelScript source recursive levels depth parent budget).acts =
        .enter parent depth rows ::
          ((insideScript source recursive more depth parent columns 0 rows budget).acts ++
            [.leave parent depth rows]) := by
  cases levels with
  | zero => cases ends
  | succ more =>
    rw [levelScript] at ends ⊢
    obtain ⟨rows, counted, ends, acts⟩ := Script.bind_ends_ok ends
    obtain ⟨columns, counted', ends, acts'⟩ := Script.bind_ends_ok ends
    obtain ⟨_, -, ends, entered⟩ := Script.bind_ends_ok ends
    obtain ⟨left, inside, ends, walked⟩ := Script.bind_ends_ok ends
    obtain rfl := Except.ok.inj ends
    refine ⟨more, rows, columns, rfl, counted, counted', inside, ?_⟩
    rw [acts, acts', entered, walked]
    rfl

theorem levelScript_fails
    (ends : (levelScript source recursive levels depth parent budget).ends = .error failure) :
    (levelScript source recursive levels depth parent budget).acts = [] ∨
    ∃ more rows columns, levels = more + 1 ∧ source.rows parent = .ok rows ∧
      source.columns parent = .ok columns ∧
      (insideScript source recursive more depth parent columns 0 rows budget).ends =
        .error failure ∧
      (levelScript source recursive levels depth parent budget).acts =
        .enter parent depth rows ::
          (insideScript source recursive more depth parent columns 0 rows budget).acts := by
  cases levels with
  | zero => exact .inl rfl
  | succ more =>
    rw [levelScript] at ends ⊢
    obtain ⟨-, acts⟩ | ⟨rows, counted, ends, acts⟩ := Script.bind_ends_error ends
    · exact .inl acts
    obtain ⟨-, acts'⟩ | ⟨columns, counted', ends, acts'⟩ := Script.bind_ends_error ends
    · exact .inl (acts.trans acts')
    obtain ⟨enters, -⟩ | ⟨_, -, ends, entered⟩ := Script.bind_ends_error ends
    · cases enters
    obtain ⟨fails, walked⟩ | ⟨_, -, leaves, -⟩ := Script.bind_ends_error ends
    · refine .inr ⟨more, rows, columns, rfl, counted, counted', fails, ?_⟩
      rw [acts, acts', entered, walked]
      rfl
    · cases leaves

def EndsAtRow (acts : List (Act ν)) : Prop :=
  ∃ earlier row columns, acts = earlier ++ [.row row columns]

theorem EndsAtRow.append {acts : List (Act ν)} (atRow : EndsAtRow acts) (earlier : List (Act ν)) :
    EndsAtRow (earlier ++ acts) := by
  obtain ⟨before, row, columns, rfl⟩ := atRow
  exact ⟨earlier ++ before, row, columns, (List.append_assoc ..).symm⟩

theorem EndsAtRow.cons {acts : List (Act ν)} (atRow : EndsAtRow acts) (first : Act ν) :
    EndsAtRow (first :: acts) := atRow.append [first]

theorem rowsScript_endsAtRow {descend : Nat → Option Budget → Script ν (Option Budget)}
    (descends : ∀ row budget, (descend row budget).ends = .error failure →
      (descend row budget).acts = [] ∨ EndsAtRow (descend row budget).acts)
    {columns left : Nat}
    (ends : (rowsScript descend parent columns depth row left budget).ends = .error failure) :
    EndsAtRow (rowsScript descend parent columns depth row left budget).acts := by
  induction left generalizing row budget with
  | zero => cases ends
  | succ left ih =>
    obtain ⟨-, ⟨fails, acts⟩ | ⟨middle, -, ends, acts⟩⟩ := rowsScript_fails ends
    · rw [acts]
      obtain nothing | atRow := descends row _ fails
      · exact ⟨[], _, columns, by rw [nothing, List.nil_append]⟩
      · exact atRow.cons _
    · rw [acts]
      exact (((ih ends).cons _).append _).cons _

theorem levelScript_endsAtRow
    (ends : (levelScript source recursive levels depth parent budget).ends = .error failure) :
    (levelScript source recursive levels depth parent budget).acts = [] ∨
      EndsAtRow (levelScript source recursive levels depth parent budget).acts := by
  induction levels generalizing depth parent budget with
  | zero => exact .inl rfl
  | succ levels ih =>
    obtain nothing | ⟨more, rows, columns, same, -, -, fails, acts⟩ := levelScript_fails ends
    · exact .inl nothing
    · obtain rfl := Nat.succ.inj same
      rw [acts]
      refine .inr (EndsAtRow.cons (rowsScript_endsAtRow (fun row budget below => ?_) fails) _)
      obtain ⟨-, nothing | ⟨child, -, deeper⟩⟩ := descent_fails below
      · exact .inl nothing
      · rw [deeper] at below ⊢
        exact ih below

end TreeTable.Walk

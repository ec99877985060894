import TreeTable.Proofs.Walk.Course

namespace TreeTable

variable {ν σ α β : Type}

def Event.row? : Event ν → Option (Walk.Row ν)
  | .beginRow parent row depth => some ⟨parent, row, depth⟩
  | _ => none

namespace Walk

def watching (see : σ → Event ν → σ) (event : Event ν) : Step σ Unit := modify (see · event)

def leftOut (budget : Option Budget) : Bool := (budget.map Budget.truncated).getD false

def Row.events (row : Row ν) (columns : Nat) : List (Event ν) :=
  .beginRow row.parent row.number row.depth ::
    ((List.range columns).map fun column => .cell row.parent row.number column row.depth) ++
    [.endRow row.parent row.number row.depth]

def Act.events : Act ν → List (Event ν)
  | .enter parent depth rows => [.beginLevel parent depth rows]
  | .row shown columns => shown.events columns
  | .close shown => [.closeRow shown.parent shown.number shown.depth]
  | .leave parent depth rows => [.endLevel parent depth rows]

def Script.events (script : Script ν α) : List (Event ν) := script.acts.flatMap Act.events

theorem rows_events_row (row : Row ν) (columns : Nat) :
    (row.events columns).filterMap Event.row? = [row] := by
  have cells : ((List.range columns).map fun column =>
      Event.cell row.parent row.number column row.depth).filterMap Event.row? = [] := by
    simp [List.filterMap_map, Function.comp_def, Event.row?]
  simp [Row.events, cells, Event.row?]

theorem Script.rows_events (told : Script ν α) : told.events.filterMap Event.row? = told.rows := by
  rw [events, rows]
  induction told.acts with
  | nil => rfl
  | cons act rest ih =>
    rw [List.flatMap_cons, List.filterMap_append, ih]
    cases act with
    | row row columns =>
      rw [Act.events, rows_events_row]
      rfl
    | enter | close | leave => rfl

variable {see : σ → Event ν → σ}

theorem cells_watching (parent : Option ν) (row : Nat) (depth : Int) (column left : Nat)
    (kept : σ) :
    cells (watching see) parent row depth column left kept =
      .ok () (((List.range' column left).map fun column =>
        Event.cell parent row column depth).foldl see kept) := by
  induction left generalizing column kept with
  | zero => rfl
  | succ left ih => exact Step.bind_eq_ok.mpr ⟨(), _, rfl, ih (column + 1) _⟩

theorem perform_watching (act : Act ν) (kept : σ) :
    act.perform (watching see) kept = .ok () (act.events.foldl see kept) := by
  cases act with
  | enter | close | leave => rfl
  | row row columns =>
    refine Step.bind_eq_ok.mpr ⟨(), _, rfl, Step.bind_eq_ok.mpr ⟨(), _, cells_watching .., ?_⟩⟩
    rw [← List.range_eq_range', Act.events, Row.events, List.foldl_append, List.foldl_cons]
    rfl

theorem performAll_watching (acts : List (Act ν)) (kept : σ) :
    Act.performAll (watching see) acts kept =
      .ok () ((acts.flatMap Act.events).foldl see kept) := by
  induction acts generalizing kept with
  | nil => rfl
  | cons act rest ih =>
    rw [List.flatMap_cons, List.foldl_append]
    exact Step.bind_eq_ok.mpr ⟨(), _, perform_watching act kept, ih _⟩

theorem replay_watching (told : Script ν α) (kept : σ) :
    told.replay (watching see) kept =
      match told.ends with
      | .ok answer => .ok answer (told.events.foldl see kept)
      | .error failure => .error failure (told.events.foldl see kept) := by
  have performed : Act.performAll (watching see) told.acts kept =
      .ok () (told.events.foldl see kept) := performAll_watching told.acts kept
  simp only [Script.replay, bind, EStateM.bind, performed]
  cases told.ends <;> rfl

theorem walk_watching (source : Source ν) (parent : Option ν) (depth : Int) (recursive : Bool)
    (maxDepth : Int) (budget : Option Budget) (see : σ → Event ν → σ) (kept : σ) :
    let told := script source parent depth recursive maxDepth budget
    match walk source (watching see) parent depth recursive maxDepth ⟨budget, kept⟩ with
    | .ok truncated after => told.ends = .ok after.budget ∧ truncated = leftOut after.budget ∧
      after.kept = told.events.foldl see kept
    | .error failure after => told.ends = .error failure ∧
      after.kept = told.events.foldl see kept := by
  intro told
  have replayed := congrFun (spending_walk source (watching see) parent depth recursive maxDepth
    budget) kept
  have begun : script source parent depth recursive maxDepth budget = told := rfl
  simp only [spending, bind, EStateM.bind, begun, replay_watching] at replayed
  cases ended : told.ends with
  | ok left =>
    rw [ended] at replayed
    cases walked : walk source (watching see) parent depth recursive maxDepth ⟨budget, kept⟩ with
    | ok truncated after =>
      rw [walked] at replayed
      obtain ⟨answered, told⟩ := EStateM.Result.ok.inj replayed
      obtain ⟨rfl, rfl⟩ := Prod.mk.inj answered
      exact ⟨rfl, rfl, told⟩
    | error failure after =>
      rw [walked] at replayed
      cases replayed
  | error failure =>
    rw [ended] at replayed
    cases walked : walk source (watching see) parent depth recursive maxDepth ⟨budget, kept⟩ with
    | ok truncated after =>
      rw [walked] at replayed
      cases replayed
    | error failure' after =>
      rw [walked] at replayed
      obtain ⟨rfl, told⟩ := EStateM.Result.error.inj replayed
      exact ⟨rfl, told⟩

section

variable {source : Source ν} {parent : Option ν} {depth maxDepth : Int} {recursive : Bool}
  {budget : Option Budget}

theorem walk_of_ends_ok {left : Option Budget}
    (ends : (script source parent depth recursive maxDepth budget).ends = .ok left)
    (see : σ → Event ν → σ) (kept : σ) :
    walk source (watching see) parent depth recursive maxDepth ⟨budget, kept⟩ =
      .ok (leftOut left)
        ⟨left, (script source parent depth recursive maxDepth budget).events.foldl see kept⟩ := by
  have watched := walk_watching source parent depth recursive maxDepth budget see kept
  cases walked : walk source (watching see) parent depth recursive maxDepth ⟨budget, kept⟩ with
  | error failure after =>
    rw [walked] at watched
    cases watched.1.symm.trans ends
  | ok truncated after =>
    rw [walked] at watched
    obtain ⟨ends', rfl, kept'⟩ := watched
    obtain rfl := Except.ok.inj (ends'.symm.trans ends)
    rw [← kept']

theorem walk_of_ends_error {failure : Failure}
    (ends : (script source parent depth recursive maxDepth budget).ends = .error failure)
    (see : σ → Event ν → σ) (kept : σ) :
    ∃ after, walk source (watching see) parent depth recursive maxDepth ⟨budget, kept⟩ =
        .error failure after ∧
      after.kept =
        (script source parent depth recursive maxDepth budget).events.foldl see kept := by
  have watched := walk_watching source parent depth recursive maxDepth budget see kept
  cases walked : walk source (watching see) parent depth recursive maxDepth ⟨budget, kept⟩ with
  | ok truncated after =>
    rw [walked] at watched
    cases watched.1.symm.trans ends
  | error failure' after =>
    rw [walked] at watched
    obtain rfl := Except.error.inj (watched.1.symm.trans ends)
    exact ⟨after, rfl, watched.2⟩

end

end Walk

end TreeTable

import TreeTable.Proofs.Outcome
import TreeTable.Proofs.Walk.Budget

/-!
Scripts: what a walk does, whoever visits. Which rows a walk comes to is up to the source and the
budget alone, so a walk replays a script that is there before anyone visits, and what is to be known
of its rows can be read off the script.
-/

namespace TreeTable.Walk

variable {ν σ α β : Type}

structure Row (ν : Type) where
  parent : Option ν
  number : Nat
  depth : Int

/-- What a walk does between two questions to its source. -/
inductive Act (ν : Type) where
  | enter (parent : Option ν) (depth : Int) (rows : Nat)
  | row (row : Row ν) (columns : Nat)
  | close (row : Row ν)
  | leave (parent : Option ν) (depth : Int) (rows : Nat)

namespace Act

def row? : Act ν → Option (Row ν)
  | .row found _ => some found
  | _ => none

def perform (visit : Event ν → Step σ Unit) : Act ν → Step σ Unit
  | .enter parent depth rows => visit (.beginLevel parent depth rows)
  | .row ⟨parent, number, depth⟩ columns => do
    visit (.beginRow parent number depth)
    cells visit parent number depth 0 columns
    visit (.endRow parent number depth)
  | .close ⟨parent, number, depth⟩ => visit (.closeRow parent number depth)
  | .leave parent depth rows => visit (.endLevel parent depth rows)

def performAll (visit : Event ν → Step σ Unit) : List (Act ν) → Step σ Unit
  | [] => pure ()
  | act :: rest => do
    act.perform visit
    performAll visit rest

theorem performAll_append (visit : Event ν → Step σ Unit) (first second : List (Act ν)) :
    performAll visit (first ++ second) =
      performAll visit first >>= fun _ => performAll visit second := by
  induction first with
  | nil => simp [performAll]
  | cons act rest ih => simp [performAll, ih]

end Act

/-- The acts of a walk in order, and what it ends with. -/
structure Script (ν α : Type) where
  acts : List (Act ν)
  ends : Except Failure α

namespace Script

def ask (answer : Except Failure α) : Script ν α := ⟨[], answer⟩

def act (act : Act ν) : Script ν Unit := ⟨[act], .ok ()⟩

def andThen (first : Script ν α) (next : α → Script ν β) : Script ν β :=
  match first.ends with
  | .ok answer => ⟨first.acts ++ (next answer).acts, (next answer).ends⟩
  | .error failure => ⟨first.acts, .error failure⟩

instance : Monad (Script ν) where
  pure answer := ⟨[], .ok answer⟩
  bind := andThen

theorem bind_of_ok {first : Script ν α} {answer : α} (ends : first.ends = .ok answer)
    (next : α → Script ν β) :
    first >>= next = ⟨first.acts ++ (next answer).acts, (next answer).ends⟩ := by
  simp only [bind, andThen, ends]

theorem bind_of_error {first : Script ν α} {failure : Failure}
    (ends : first.ends = .error failure) (next : α → Script ν β) :
    first >>= next = ⟨first.acts, .error failure⟩ := by
  simp only [bind, andThen, ends]

theorem bind_ends_ok {first : Script ν α} {next : α → Script ν β} {left : β}
    (ends : (first >>= next).ends = .ok left) : ∃ middle, first.ends = .ok middle ∧
      (next middle).ends = .ok left ∧ (first >>= next).acts = first.acts ++ (next middle).acts := by
  cases ended : first.ends with
  | error failure =>
    rw [bind_of_error ended] at ends
    cases ends
  | ok middle =>
    rw [bind_of_ok ended] at ends ⊢
    exact ⟨middle, rfl, ends, rfl⟩

theorem ask_ok_bind (answer : α) (next : α → Script ν β) :
    ask (.ok answer) >>= next = next answer := rfl

def rows (script : Script ν α) : List (Row ν) := script.acts.filterMap Act.row?

def replay (visit : Event ν → Step σ Unit) (script : Script ν α) : Step σ α := do
  Act.performAll visit script.acts
  Step.of script.ends

theorem replay_pure (visit : Event ν → Step σ Unit) (answer : α) :
    (pure answer : Script ν α).replay visit = pure answer := rfl

theorem replay_ask (visit : Event ν → Step σ Unit) (answer : Except Failure α) :
    (ask answer : Script ν α).replay visit = Step.of answer := rfl

theorem replay_act (visit : Event ν → Step σ Unit) (done : Act ν) :
    (act done).replay visit = done.perform visit := by
  simp [replay, act, Act.performAll, Step.of]

theorem replay_bind (visit : Event ν → Step σ Unit) (first : Script ν α)
    (next : α → Script ν β) :
    (first >>= next).replay visit =
      first.replay visit >>= fun answer => (next answer).replay visit := by
  cases ends : first.ends with
  | ok answer =>
    simp [bind_of_ok ends, replay, Act.performAll_append, ends, Step.of]
  | error failure =>
    have thrown : (throw failure >>= fun answer => (next answer).replay visit : Step σ β) =
        throw failure := rfl
    simp only [bind_of_error ends, replay, ends, Step.of, bind_assoc]
    exact congrArg (Act.performAll visit first.acts >>= ·) (funext fun _ => thrown.symm)

end Script

/-! ## The script of a walk -/

def rowsScript (descend : Nat → Option Budget → Script ν (Option Budget)) (parent : Option ν)
    (columns : Nat) (depth : Int) (row : Nat) :
    (left : Nat) → Option Budget → Script ν (Option Budget)
  | 0, budget => pure budget
  | left + 1, budget =>
    if room budget 1 = 1 then do
      Script.act (.row ⟨parent, row, depth⟩ columns)
      let budget ← descend row (settle budget 1)
      Script.act (.close ⟨parent, row, depth⟩)
      rowsScript descend parent columns depth (row + 1) left budget
    else pure (settle budget 1)

def levelScript (source : Source ν) (recursive : Bool) :
    (levels : Nat) → (depth : Int) → (parent : Option ν) → Option Budget →
      Script ν (Option Budget)
  | 0, _, _, _ => Script.ask (.error .tooDeep)
  | levels + 1, depth, parent, budget => do
    let rowCount ← Script.ask (source.rows parent)
    let columnCount ← Script.ask (source.columns parent)
    Script.act (.enter parent depth rowCount)
    let descend (row : Nat) (budget : Option Budget) : Script ν (Option Budget) :=
      if recursive then do
        let child ← Script.ask (source.cell (.int row) (.int 0) parent)
        levelScript source recursive levels (depth + 1) (some child) budget
      else pure budget
    let budget ← rowsScript descend parent columnCount depth 0 rowCount budget
    Script.act (.leave parent depth rowCount)
    return budget

def script (source : Source ν) (parent : Option ν) (depth : Int) (recursive : Bool)
    (maxDepth : Int) (budget : Option Budget) : Script ν (Option Budget) :=
  levelScript source recursive (maxDepth + 1 - depth).toNat depth parent budget

/-! ## Walks replay their scripts -/

def spending (steps : Step (Progress σ) α) (budget : Option Budget) :
    Step σ (α × Option Budget) := fun kept =>
  match steps ⟨budget, kept⟩ with
  | .ok answer after => .ok (answer, after.budget) after.kept
  | .error failure after => .error failure after.kept

theorem spending_pure (answer : α) (budget : Option Budget) :
    spending (pure answer : Step (Progress σ) α) budget = pure (answer, budget) := rfl

theorem spending_bind (first : Step (Progress σ) α) (next : α → Step (Progress σ) β)
    (budget : Option Budget) :
    spending (first >>= next) budget =
      spending first budget >>= fun (answer, left) => spending (next answer) left := by
  funext kept
  simp only [spending, bind, EStateM.bind]
  cases first ⟨budget, kept⟩ <;> rfl

theorem spending_of (outcome : Except Failure α) (budget : Option Budget) :
    spending (Step.of outcome : Step (Progress σ) α) budget =
      Step.of outcome >>= fun answer => pure (answer, budget) := by
  cases outcome <;> rfl

theorem spending_visiting (steps : Step σ α) (budget : Option Budget) :
    spending (visiting steps) budget = steps >>= fun answer => pure (answer, budget) := by
  funext kept
  simp only [spending, visiting, bind, EStateM.bind]
  cases steps kept <;> rfl

theorem spending_admitted (budget : Option Budget) :
    spending (admitted : Step (Progress σ) Bool) budget =
      pure (decide (room budget 1 = 1), settle budget 1) := by
  funext kept
  simp only [spending, admitted_eq]
  rfl

/-- Steps of a walk that, from any budget, do what a script says. -/
def Replays (visit : Event ν → Step σ Unit) (steps : Step (Progress σ) Unit)
    (told : Option Budget → Script ν (Option Budget)) : Prop :=
  ∀ budget, spending steps budget = (told budget).replay visit >>= fun left => pure ((), left)

theorem rows_replays {visit : Event ν → Step σ Unit} {descend : Nat → Step (Progress σ) Unit}
    {below : Nat → Option Budget → Script ν (Option Budget)}
    (descends : ∀ row, Replays visit (descend row) (below row)) (parent : Option ν)
    (columns : Nat) (depth : Int) (row left : Nat) :
    Replays visit (rows visit descend parent columns depth row left)
      (rowsScript below parent columns depth row left) := by
  induction left generalizing row with
  | zero => exact fun _ => rfl
  | succ left ih =>
    intro budget
    rw [rows, rowsScript, spending_bind, spending_admitted, pure_bind]
    by_cases fits : room budget 1 = 1
    · have shown : (do
            visit (.beginRow parent row depth)
            cells visit parent row depth 0 columns
            visit (.endRow parent row depth) : Step σ Unit) =
          (Act.row ⟨parent, row, depth⟩ columns).perform visit := rfl
      have closed : visit (.closeRow parent row depth) =
          (Act.close ⟨parent, row, depth⟩).perform visit := rfl
      simp only [decide_eq_true fits, if_true, if_pos fits, shown, closed, spending_bind,
        spending_visiting, descends row _, ih (row + 1) _, Script.replay_bind, Script.replay_act,
        bind_assoc, pure_bind]
    · simp [fits, spending_pure, Script.replay_pure]

theorem level_replays (source : Source ν) (visit : Event ν → Step σ Unit) (recursive : Bool)
    (levels : Nat) (depth : Int) (parent : Option ν) :
    Replays visit (level source visit recursive levels depth parent)
      (levelScript source recursive levels depth parent) := by
  -- on the levels that may still be entered; nothing is known of the depth of the source
  induction levels generalizing depth parent with
  | zero => exact fun _ => rfl
  | succ levels ih =>
    intro budget
    have descends : ∀ row : Nat, Replays visit
        (if recursive then do
          let child ← Step.of (source.cell (.int row) (.int 0) parent)
          level source visit recursive levels (depth + 1) (some child)
        else pure () : Step (Progress σ) Unit)
        (fun budget => if recursive then do
          let child ← Script.ask (source.cell (.int row) (.int 0) parent)
          levelScript source recursive levels (depth + 1) (some child) budget
        else pure budget) := by
      intro row budget
      cases recursive with
      | false => rfl
      | true =>
        simp only [if_true, spending_bind, spending_of, Script.replay_bind, Script.replay_ask,
          ih (depth + 1) _ _, bind_assoc, pure_bind]
    have entered : ∀ rows, visit (.beginLevel parent depth rows) =
        (Act.enter parent depth rows).perform visit := fun _ => rfl
    have left : ∀ rows, visit (.endLevel parent depth rows) =
        (Act.leave parent depth rows).perform visit := fun _ => rfl
    simp only [level, levelScript, spending_bind, spending_of, spending_visiting,
      rows_replays descends _ _ _ _ _ _, Script.replay_bind, Script.replay_ask, Script.replay_act,
      Script.replay_pure, entered, left, bind_assoc, pure_bind]

theorem spending_walk (source : Source ν) (visit : Event ν → Step σ Unit) (parent : Option ν)
    (depth : Int) (recursive : Bool) (maxDepth : Int) (budget : Option Budget) :
    spending (walk source visit parent depth recursive maxDepth) budget =
      (script source parent depth recursive maxDepth budget).replay visit >>= fun left =>
        pure ((left.map Budget.truncated).getD false, left) := by
  have walked := level_replays source visit recursive (maxDepth + 1 - depth).toNat depth parent
    budget
  rw [walk, spending_bind, walked, bind_assoc]
  rfl

theorem within_eq_replay (source : Source ν) (visit : Event ν → Step σ Unit)
    (parent : Option ν) (depth : Int) (recursive : Bool) (maxDepth : Int)
    (budget : Option Budget) :
    within budget (walk source visit parent depth recursive maxDepth) =
      (script source parent depth recursive maxDepth budget).replay visit >>= fun left =>
        pure ((left.map Budget.truncated).getD false) := by
  have answers : within budget (walk source visit parent depth recursive maxDepth) =
      spending (walk source visit parent depth recursive maxDepth) budget >>= fun (answer, _) =>
        pure answer := by
    funext kept
    simp only [within, spending, bind, EStateM.bind]
    cases walk source visit parent depth recursive maxDepth ⟨budget, kept⟩ <;> rfl
  rw [answers, spending_walk, bind_assoc]
  rfl

namespace Script

theorem forall_acts_bind {holds : Act ν → Prop} {first : Script ν α} {next : α → Script ν β}
    (firstHold : ∀ act ∈ first.acts, holds act)
    (nextHold : ∀ answer, first.ends = .ok answer → ∀ act ∈ (next answer).acts, holds act) :
    ∀ act ∈ (first >>= next).acts, holds act := by
  cases ends : first.ends with
  | error failure =>
    rw [bind_of_error ends]
    exact firstHold
  | ok answer =>
    rw [bind_of_ok ends]
    intro act occurs
    rcases List.mem_append.mp occurs with before | after
    · exact firstHold act before
    · exact nextHold answer ends act after

end Script

def Act.Counted (source : Source ν) : Act ν → Prop
  | .row found columns => source.columns found.parent = .ok columns
  | _ => True

theorem rowsScript_counted {source : Source ν}
    {descend : Nat → Option Budget → Script ν (Option Budget)} {parent : Option ν} {columns : Nat}
    (count : source.columns parent = .ok columns)
    (descends : ∀ row budget, ∀ act ∈ (descend row budget).acts, act.Counted source)
    (depth : Int) (row left : Nat) (budget : Option Budget) :
    ∀ act ∈ (rowsScript descend parent columns depth row left budget).acts, act.Counted source := by
  induction left generalizing row budget with
  | zero => exact fun _ none => nomatch none
  | succ left ih =>
    rw [rowsScript]
    by_cases fits : room budget 1 = 1
    · rw [if_pos fits]
      refine Script.forall_acts_bind ?shown fun _ _ => Script.forall_acts_bind (descends row _)
        fun _ _ => Script.forall_acts_bind ?closed fun _ _ => ih (row + 1) _
      · simpa [Script.act, Act.Counted] using count
      · simp [Script.act, Act.Counted]
    · rw [if_neg fits]
      exact fun _ none => nomatch none

theorem levelScript_counted (source : Source ν) (recursive : Bool) (levels : Nat) (depth : Int)
    (parent : Option ν) (budget : Option Budget) :
    ∀ act ∈ (levelScript source recursive levels depth parent budget).acts,
      act.Counted source := by
  induction levels generalizing depth parent budget with
  | zero => exact fun _ none => nomatch none
  | succ levels ih =>
    have nothing : ∀ {α : Type} (answer : Except Failure α),
        ∀ act ∈ (Script.ask answer : Script ν α).acts, act.Counted source :=
      fun _ _ none => nomatch none
    rw [levelScript]
    refine Script.forall_acts_bind (nothing _) fun rows _ =>
      Script.forall_acts_bind (nothing _) fun columns count =>
      Script.forall_acts_bind ?enter fun _ _ => Script.forall_acts_bind ?rows fun _ _ =>
      Script.forall_acts_bind ?leave fun _ _ => fun _ none => nomatch none
    · simp [Script.act, Act.Counted]
    · refine rowsScript_counted count (fun row budget => ?_) depth 0 rows _
      cases recursive with
      | false => exact fun _ none => nomatch none
      | true => exact Script.forall_acts_bind (nothing _) fun child _ => ih _ _ _
    · simp [Script.act, Act.Counted]

theorem script_counted (source : Source ν) (parent : Option ν) (depth : Int) (recursive : Bool)
    (maxDepth : Int) (budget : Option Budget) :
    ∀ act ∈ (script source parent depth recursive maxDepth budget).acts, act.Counted source :=
  levelScript_counted source recursive _ depth parent budget

def noteRow : Event ν → Step (List (Row ν)) Unit
  | .beginRow parent number depth => modify (· ++ [⟨parent, number, depth⟩])
  | _ => pure ()

def visited (source : Source ν) (recursive : Bool) (maxDepth : Int) :
    Except Failure (List (Row ν)) :=
  match within none (walk source noteRow none 0 recursive maxDepth) [] with
  | .ok _ rows => .ok rows
  | .error failure _ => .error failure

theorem cells_noteRow (parent : Option ν) (row : Nat) (depth : Int) (column left : Nat) :
    cells noteRow parent row depth column left = pure () := by
  induction left generalizing column with
  | zero => rfl
  | succ left ih =>
    rw [cells, ih]
    rfl

theorem performAll_noteRow (acts : List (Act ν)) (rows : List (Row ν)) :
    Act.performAll noteRow acts rows = .ok () (rows ++ acts.filterMap Act.row?) := by
  induction acts generalizing rows with
  | nil => simp [Act.performAll, pure, EStateM.pure]
  | cons act rest ih =>
    refine Step.bind_eq_ok.mpr ⟨(), rows ++ act.row?.toList, ?_, ?_⟩
    · cases act with
      | row row columns =>
        rw [Act.perform, cells_noteRow]
        rfl
      | enter | close | leave =>
        simp only [Act.row?, Option.toList_none, List.append_nil]
        rfl
    · rw [ih]
      cases act <;> simp [Act.row?, List.filterMap_cons]

theorem visited_eq_script (source : Source ν) (recursive : Bool) (maxDepth : Int) :
    visited source recursive maxDepth =
      (script source none 0 recursive maxDepth none).ends >>= fun _ =>
        .ok (script source none 0 recursive maxDepth none).rows := by
  have told := performAll_noteRow (script source none 0 recursive maxDepth none).acts []
  rw [visited, within_eq_replay]
  simp only [Script.replay, bind, EStateM.bind, told]
  cases (script source none 0 recursive maxDepth none).ends <;> rfl

end TreeTable.Walk

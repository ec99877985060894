import TreeTable.Proofs.Walk.Told

namespace TreeTable.Walk

variable {ν α β : Type}

def Script.GoesOn (script script' : Script ν α) : Prop :=
  script' = script ∨ script.ends = .error .tooDeep ∧ script.acts <+: script'.acts

namespace Script.GoesOn

theorem refl (script : Script ν α) : GoesOn script script := .inl rfl

theorem bind {first first' : Script ν α} {next next' : α → Script ν β} (goes : GoesOn first first')
    (goes' : ∀ answer, GoesOn (next answer) (next' answer)) :
    GoesOn (first >>= next) (first' >>= next') := by
  obtain rfl | ⟨fails, before⟩ := goes
  · cases ends : first'.ends with
    | error failure =>
      rw [bind_of_error ends, bind_of_error ends]
      exact refl _
    | ok answer =>
      rw [bind_of_ok ends, bind_of_ok ends]
      obtain same | ⟨fails, before⟩ := goes' answer
      · rw [same]
        exact refl _
      · exact .inr ⟨fails, (List.prefix_append_right_inj _).mpr before⟩
  · rw [bind_of_error fails]
    refine .inr ⟨rfl, before.trans ?_⟩
    cases ends : first'.ends with
    | error failure =>
      simp only [bind_of_error ends, List.prefix_rfl]
    | ok answer =>
      rw [bind_of_ok ends]
      exact List.prefix_append _ _

theorem events {script script' : Script ν α} (goes : GoesOn script script') :
    script.events <+: script'.events := by
  obtain rfl | ⟨-, rest, whole⟩ := goes
  · exact List.prefix_rfl
  · rw [Script.events, Script.events, ← whole, List.flatMap_append]
    exact List.prefix_append _ _

end Script.GoesOn

theorem rowsScript_goesOn {descend descend' : Nat → Option Budget → Script ν (Option Budget)}
    (descends : ∀ row budget, (descend row budget).GoesOn (descend' row budget))
    (parent : Option ν) (columns : Nat) (depth : Int) (row left : Nat) (budget : Option Budget) :
    (rowsScript descend parent columns depth row left budget).GoesOn
      (rowsScript descend' parent columns depth row left budget) := by
  induction left generalizing row budget with
  | zero => exact .refl _
  | succ left ih =>
    rw [rowsScript, rowsScript]
    split
    · exact .bind (.refl _) fun _ => .bind (descends row _) fun budget =>
        .bind (.refl _) fun _ => ih (row + 1) budget
    · exact .refl _

theorem levelScript_goesOn (source : Source ν) (recursive : Bool) {levels levels' : Nat}
    (more : levels ≤ levels') (depth : Int) (parent : Option ν) (budget : Option Budget) :
    (levelScript source recursive levels depth parent budget).GoesOn
      (levelScript source recursive levels' depth parent budget) := by
  -- on the levels that the first walk may still enter; where there are none it fails at once
  induction levels generalizing levels' depth parent budget with
  | zero => exact .inr ⟨rfl, List.nil_prefix⟩
  | succ levels ih =>
    obtain ⟨levels', rfl⟩ := Nat.exists_eq_add_one.mpr (Nat.zero_lt_of_lt more)
    rw [levelScript, levelScript]
    refine .bind (.refl _) fun rows => .bind (.refl _) fun columns => .bind (.refl _) fun _ =>
      .bind (rowsScript_goesOn (fun row budget => ?_) _ _ _ _ _ _) fun budget => .refl _
    split
    · exact .bind (.refl _) fun child => ih (Nat.le_of_succ_le_succ more) _ _ _
    · exact .refl _

theorem script_goesOn (source : Source ν) (parent : Option ν) (depth : Int) (recursive : Bool)
    {lower higher : Int} (lifted : lower ≤ higher) (budget : Option Budget) :
    (script source parent depth recursive lower budget).GoesOn
      (script source parent depth recursive higher budget) :=
  levelScript_goesOn source recursive (by omega) depth parent budget

variable {σ : Type}

def keptAtEnd : EStateM.Result Failure (Progress σ) α → σ
  | .ok _ after | .error _ after => after.kept

theorem keptAtEnd_walk (source : Source ν) (parent : Option ν) (depth : Int) (recursive : Bool)
    (maxDepth : Int) (budget : Option Budget) (see : σ → Event ν → σ) (kept : σ) :
    keptAtEnd (walk source (watching see) parent depth recursive maxDepth ⟨budget, kept⟩) =
      (script source parent depth recursive maxDepth budget).events.foldl see kept := by
  have watched := walk_watching source parent depth recursive maxDepth budget see kept
  cases walked : walk source (watching see) parent depth recursive maxDepth ⟨budget, kept⟩ with
  | ok truncated after =>
    rw [walked] at watched
    exact watched.2.2
  | error failure after =>
    rw [walked] at watched
    exact watched.2

theorem walk_goesOn (source : Source ν) (parent : Option ν) (depth : Int) (recursive : Bool)
    {lower higher : Int} (lifted : lower ≤ higher) (budget : Option Budget) :
    ∃ events events' : List (Event ν), events <+: events' ∧
      ∀ {σ : Type} (see : σ → Event ν → σ) (kept : σ),
        let walked (maxDepth : Int) :=
          walk source (watching see) parent depth recursive maxDepth ⟨budget, kept⟩
        keptAtEnd (walked lower) = events.foldl see kept ∧
        keptAtEnd (walked higher) = events'.foldl see kept ∧
        (∀ truncated after, walked lower = .ok truncated after →
          walked higher = .ok truncated after ∧ events' = events) ∧
        ∀ failure after, walked lower = .error failure after → failure ≠ .tooDeep →
          (∃ after', walked higher = .error failure after') ∧ events' = events := by
  have goes := script_goesOn source parent depth recursive lifted budget
  refine ⟨_, _, goes.events, fun see kept => ?_⟩
  intro walked
  refine ⟨keptAtEnd_walk .., keptAtEnd_walk .., ?_⟩
  obtain same | ⟨fails, -⟩ := goes
  · cases ends : (script source parent depth recursive lower budget).ends with
    | ok left =>
      have returns : walked lower = _ := walk_of_ends_ok ends see kept
      have returns' : walked higher = _ := walk_of_ends_ok (same ▸ ends) see kept
      rw [returns, returns', same]
      exact ⟨fun _ _ answered => ⟨answered, rfl⟩, nofun⟩
    | error failure =>
      obtain ⟨after, failed, -⟩ := walk_of_ends_error ends see kept
      obtain ⟨after', failed', -⟩ := walk_of_ends_error (same ▸ ends) see kept
      have failed : walked lower = _ := failed
      have failed' : walked higher = _ := failed'
      rw [failed, failed', same]
      refine ⟨nofun, ?_⟩
      rintro _ _ ⟨⟩ -
      exact ⟨⟨after', rfl⟩, rfl⟩
  · obtain ⟨after, failed, -⟩ := walk_of_ends_error fails see kept
    have failed : walked lower = _ := failed
    rw [failed]
    refine ⟨nofun, ?_⟩
    rintro _ _ ⟨⟩ other
    exact absurd rfl other

end TreeTable.Walk

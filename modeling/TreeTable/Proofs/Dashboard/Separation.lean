import TreeTable.Proofs.Dashboard.Sight.Action

/-!
Views that do not influence each other. What is done to one view and to its sources, and what its
renders come to, shows in another view only if something leads there: a source that both show, a
delegate that requests updates, or a serializer whose delegate does.
-/

namespace TreeTable

/-! ## Steps of a view -/

namespace Action

/-- An action is a step of the views of a name, whose sources are these: it makes, moves, requests
or renders one of them, or it changes one of the sources. -/
def isStepOf (view : String) (sources : List String) : Action → Bool
  | .defineView name .. | .attach name _ | .setSerializer name _ | .request name | .render name =>
    name == view
  | .call source (.ok change) => change.isMutation && sources.contains source
  | .setFaults source _ => sources.contains source
  | _ => false

def isTurn : Action → Bool
  | .turn => true
  | _ => false

end Action

section Run

variable (actions : List Action)

def isStep (view : String) (action : Action) : Bool :=
  action.isStepOf view (sourcesOf actions view)

def isWatched (view : String) (action : Action) : Bool :=
  action.isTurn || isStep actions view action

def without (view : String) : List Action :=
  actions.filter fun action => !isStep actions view action

/-- The views that something leads to from those of a name in the course of a run. -/
inductive Reached (origin : String) : String → Prop
  | origin : Reached origin origin
  | shows {view source : String} (its : source ∈ sourcesOf actions origin)
      (shown : source ∈ sourcesOf actions view) : Reached origin view
  | requests {view : String} (wished : origin ∈ requestedBy actions view) : Reached origin view
  | requested {view other : String} (reached : Reached origin view)
      (wished : other ∈ requestedBy actions view) : Reached origin other
  | shares {view other serializer : String} (reached : Reached origin view)
      (given : serializer ∈ serializersOf actions view)
      (shared : serializer ∈ serializersOf actions other)
      (wishes : wishesOf actions serializer ≠ []) : Reached origin other

/-- Two views of a run with nothing in common, neither of which requests updates of the other. -/
structure ShareNothing (view other : String) : Prop where
  different : view ≠ other
  sources : ∀ source ∈ sourcesOf actions view, source ∉ sourcesOf actions other
  serializers : ∀ serializer ∈ serializersOf actions view, serializer ∉ serializersOf actions other
  unasked : other ∉ requestedBy actions view
  unasking : view ∉ requestedBy actions other

end Run

variable {actions : List Action}

theorem ShareNothing.not_reached {view other : String} (apart : ShareNothing actions view other)
    (alone : ∀ name, name ≠ view → name ≠ other → serializersOf actions name = []) :
    ¬ Reached actions other view := by
  have others : ∀ name, name ≠ view → name ≠ other → requestedBy actions name = [] := by
    intro name first second
    rw [requestedBy, alone name first second, List.flatMap_nil]
  have never : ∀ name, Reached actions other name → name ≠ view := by
    intro name reached
    -- on the way there: no step of it ends at this view if it starts at another
    induction reached with
    | origin => exact apart.different.symm
    | shows its shown =>
      rintro rfl
      exact apart.sources _ shown its
    | requests wished =>
      rintro rfl
      exact apart.unasked wished
    | @requested name _ _ wished ih =>
      rintro rfl
      by_cases its : name = other
      · exact apart.unasking (its ▸ wished)
      · rw [others name ih its] at wished
        cases wished
    | @shares name _ _ _ given shared _ ih =>
      rintro rfl
      by_cases its : name = other
      · exact apart.serializers _ shared (its ▸ given)
      · rw [alone name ih its] at given
        cases given
  exact fun reached => never view reached rfl

/-! ## What is seen of a view -/

namespace Dashboard

def history (board : Dashboard) : List Action → List (Action × Dashboard)
  | [] => []
  | action :: rest =>
    let after := (board.perform action).2
    (action, after) :: after.history rest

/-- What is seen of a view: its text, whether a render is requested, and how many there were. -/
def appearance (board : Dashboard) (view : Handle) : Option (Value × Bool × Nat) :=
  (board.views.value? view).map fun state => (state.text, state.pending, state.renders)

def appearances (watched : Action → Bool) (view : Handle) (actions : List Action) :
    List (Option (Value × Bool × Nat)) :=
  ((start.history actions).filter fun (action, _) => watched action).map
    fun (_, board) => board.appearance view

end Dashboard

/-! ## Nothing leads there -/

namespace Veil

section Around

open Classical

noncomputable def around (actions : List Action) (origin : String) : Veil where
  circle view := decide (Reached actions origin view)
  origin := origin
  inside := decide_eq_true .origin
  sources source := decide (source ∈ sourcesOf actions origin)
  serializers serializer :=
    decide (∃ view, Reached actions origin view ∧ serializer ∈ serializersOf actions view)

theorem circle_around {origin view : String} :
    (around actions origin).circle view = true ↔ Reached actions origin view := decide_eq_true_iff

theorem sources_around {origin source : String} :
    (around actions origin).sources source = true ↔ source ∈ sourcesOf actions origin :=
  decide_eq_true_iff

theorem serializers_around {origin serializer : String} :
    (around actions origin).serializers serializer = true ↔
      ∃ view, Reached actions origin view ∧ serializer ∈ serializersOf actions view :=
  decide_eq_true_iff

end Around

theorem outside_around {origin view : String} :
    (around actions origin).circle view = false ↔ ¬ Reached actions origin view := by
  rw [← Bool.not_eq_true, circle_around]

theorem covers_around (actions : List Action) (origin : String) :
    (around actions origin).Covers actions where
  sources := fun source its => sources_around.mpr its
  shown := fun view source shown hidden =>
    circle_around.mpr (.shows (sources_around.mp hidden) shown)
  serializers := fun view inside serializer given =>
    serializers_around.mpr ⟨view, circle_around.mp inside, given⟩
  requested := fun view inside other wished =>
    circle_around.mpr (.requested (circle_around.mp inside) wished)
  unasked := fun view outside wished => outside_around.mp outside (.requests wished)
  unshared := fun view outside serializer shared hidden => by
    obtain ⟨other, reached, given⟩ := serializers_around.mp hidden
    by_contra wishes
    exact outside_around.mp outside (.shares reached given shared wishes)

theorem hides_of_isStep {other : String} {action : Action}
    (step : isStep actions other action = true) : (around actions other).hides action = true := by
  have inside := (around actions other).inside
  cases action with
  | call source call =>
    cases call with
    | error failure => cases step
    | ok call =>
      simp only [isStep, Action.isStepOf, Bool.and_eq_true, List.contains_iff_mem] at step
      exact sources_around.mpr step.2
  | setFaults source faults =>
    exact sources_around.mpr (by simpa [isStep, Action.isStepOf] using step)
  | defineView name serializer source => exact step
  | attach name source | setSerializer name serializer | request name | render name =>
    obtain rfl : name = other := by simpa [isStep, Action.isStepOf] using step
    exact inside
  | _ => cases step

theorem not_isStep_of_isStep {view other : String} (apart : ¬ Reached actions other view)
    {action : Action} (step : isStep actions other action = true) :
    isStep actions view action = false := by
  have different : other ≠ view := by
    rintro rfl
    exact apart .origin
  cases action with
  | call source call =>
    cases call with
    | error failure => rfl
    | ok call =>
      simp only [isStep, Action.isStepOf, Bool.and_eq_true, List.contains_iff_mem] at step
      have foreign : source ∉ sourcesOf actions view := fun shown => apart (.shows step.2 shown)
      simp [isStep, Action.isStepOf, foreign]
  | setFaults source faults =>
    have its : source ∈ sourcesOf actions other := by simpa [isStep, Action.isStepOf] using step
    have foreign : source ∉ sourcesOf actions view := fun shown => apart (.shows its shown)
    simp [isStep, Action.isStepOf, foreign]
  | defineView name | attach name | setSerializer name | request name | render name =>
    obtain rfl : name = other := by simpa [isStep, Action.isStepOf] using step
    simpa [isStep, Action.isStepOf] using different
  | _ => cases step

end Veil

namespace Dashboard

variable {left right : Dashboard} {veil : Veil}

theorem appearance_eq (same : veil.sight left = veil.sight right) {view : Handle}
    (outside : veil.circle view.name = false) : left.appearance view = right.appearance view := by
  unfold appearance
  rw [Veil.value?_view same outside]

theorem appearances_filter (covers : veil.Covers actions)
    (same : veil.sight left = veil.sight right) (orderly : Orderly actions left)
    (orderly' : Orderly actions right) {view : Handle} (outside : veil.circle view.name = false)
    {watched kept : Action → Bool}
    (dropped : ∀ action, kept action = false → veil.hides action = true ∧ watched action = false)
    {rest : List Action} (among : rest ⊆ actions) :
    ((right.history (rest.filter kept)).filter fun (action, _) => watched action).map
        (fun (_, board) => board.appearance view) =
      ((left.history rest).filter fun (action, _) => watched action).map
        fun (_, board) => board.appearance view := by
  -- on the run to come, from two dashboards that look alike; a hidden action is performed in one
  induction rest generalizing left right with
  | nil => rfl
  | cons action rest ih =>
    obtain ⟨member, among⟩ := List.cons_subset.mp among
    have after := orderly.perform member
    cases keeps : kept action with
    | true =>
      have performed := Veil.sight_perform covers same orderly orderly' member
      have later := ih performed after (orderly'.perform member) among
      rw [List.filter_cons_of_pos keeps]
      simp only [history, List.filter_cons]
      split
      · rw [List.map_cons, List.map_cons, later, appearance_eq performed outside]
      · exact later
    | false =>
      obtain ⟨hidden, unwatched⟩ := dropped action keeps
      have unseen := (Veil.sight_perform_hidden covers orderly hidden).trans same
      rw [List.filter_cons_of_neg (by simp [keeps])]
      simp only [history, List.filter_cons, unwatched, Bool.false_eq_true, if_false]
      exact ih unseen after orderly' among

/-- A view is seen the same after each of its own steps and after each turn if all steps of another
view are left out of the run, whether renders of that one fail or not, unless something leads from
that view to this one. -/
theorem appearances_without (actions : List Action) (view : Handle) (other : String)
    (apart : ¬ Reached actions other view.name) :
    appearances (isWatched actions view.name) view (without actions other) =
      appearances (isWatched actions view.name) view actions := by
  have outside : (Veil.around actions other).circle view.name = false :=
    Veil.outside_around.mpr apart
  have dropped : ∀ action, (!isStep actions other action) = false →
      (Veil.around actions other).hides action = true ∧
        isWatched actions view.name action = false := by
    intro action dropped
    have step : isStep actions other action = true := by simpa using dropped
    have unwatched := Veil.not_isStep_of_isStep apart step
    have running : action.isTurn = false := by
      cases action with
      | turn => cases step
      | _ => rfl
    exact ⟨Veil.hides_of_isStep step, by simp [isWatched, running, unwatched]⟩
  exact appearances_filter (Veil.covers_around actions other) rfl .start .start outside dropped
    (List.Subset.refl actions)

def failing : List Action :=
  [.defineSource "mine" (some (.matrix {})),
    .defineSource "hers" (some (.tree
      { items := [{ values := #[.text "x"], children := [], roles := [] }] }
      (some { cell := some .wrongType }))),
    .defineSerializer "csv" (.text "csv") none (.ok {}) [],
    .defineSerializer "html" (.text "html-list") none (.ok {}) [],
    .defineSerializer "asking" (.text "csv") none
      (.ok { hook := some { wishes := "list", left := 2 } }) [],
    .defineView "table" "csv" (some "mine"), .defineView "list" "html" (some "hers"),
    .defineView "copy" "asking" (some "hers"), .turn,
    .call "hers" (.ok (.setValue [.int 0] (.int 0) (.text "y"))),
    .call "mine" (.ok (.setCell (.text "first") (.text "name") (.text "x"))), .turn]

theorem mem_sourcesOf_failing (view source : String) :
    source ∈ sourcesOf failing view ↔ "table" = view ∧ source = "mine" ∨
      "list" = view ∧ source = "hers" ∨ "copy" = view ∧ source = "hers" := by
  simp [failing, sourcesOf, Action.sourcesFor]

theorem mem_serializersOf_failing (view serializer : String) :
    serializer ∈ serializersOf failing view ↔ "table" = view ∧ serializer = "csv" ∨
      "list" = view ∧ serializer = "html" ∨ "copy" = view ∧ serializer = "asking" := by
  simp [failing, serializersOf, Action.serializersFor]

theorem mem_wishesOf_failing (serializer view : String) :
    view ∈ wishesOf failing serializer ↔ "asking" = serializer ∧ view = "list" := by
  have wishes : Hook.allWishes { wishes := "list", left := 2 } = ["list", "list"] := by decide
  simp [failing, wishesOf, Action.wishesOf, wishes]

theorem not_reached_failing : ¬ Reached failing "list" "table" := by
  have requested : ∀ view other, other ∈ requestedBy failing view → other = "list" := by
    intro view other wished
    obtain ⟨serializer, _, wished⟩ := List.mem_flatMap.mp wished
    exact ((mem_wishesOf_failing serializer other).mp wished).2
  have closed : ∀ name, Reached failing "list" name → name = "list" ∨ name = "copy" := by
    intro name reached
    induction reached with
    | origin => exact .inl rfl
    | shows its shown =>
      rw [mem_sourcesOf_failing] at its shown
      grind
    | @requests view wished =>
      obtain ⟨serializer, given, wished⟩ := List.mem_flatMap.mp wished
      rw [mem_serializersOf_failing] at given
      rw [mem_wishesOf_failing] at wished
      grind
    | requested _ wished => exact .inl (requested _ _ wished)
    | shares _ given shared _ ih =>
      rw [mem_serializersOf_failing] at given shared
      grind
  intro reached
  simpa using closed "table" reached

theorem appearances_without_failing :
    ¬ Reached failing "list" "table" ∧
      appearances (isWatched failing "table") ⟨"table", 0⟩ (without failing "list") =
        appearances (isWatched failing "table") ⟨"table", 0⟩ failing ∧
      (appearances (isWatched failing "table") ⟨"table", 0⟩ failing).map (Option.map Prod.snd) =
        [some (true, 0), some (false, 1), some (true, 1), some (false, 2)] :=
  ⟨not_reached_failing, appearances_without failing ⟨"table", 0⟩ "list" not_reached_failing,
    by decide +kernel⟩

def relaying : List Action :=
  [.defineSource "mine" (some (.matrix {})), .defineSource "hers" (some (.matrix {})),
    .defineSerializer "csv" (.text "csv") none (.ok {}) [],
    .defineSerializer "html" (.text "html-list") none (.ok {}) [],
    .defineSerializer "asking" (.text "csv") none
      (.ok { hook := some { wishes := "table", left := 1 } }) [],
    .defineView "table" "csv" (some "mine"), .defineView "list" "html" (some "hers"),
    .defineView "copy" "asking" (some "hers"), .turn,
    .call "hers" (.ok (.setCell (.text "first") (.text "name") (.text "x"))), .turn]

theorem appearances_without_relaying :
    ¬ ∀ (actions : List Action) (view : Handle) (other : String),
      ShareNothing actions view.name other →
        appearances (isWatched actions view.name) view (without actions other) =
          appearances (isWatched actions view.name) view actions := by
  intro separate
  have apart : ShareNothing relaying "table" "list" :=
    ⟨by decide, by decide, by decide, by decide, by decide⟩
  have same := congrArg (List.map (Option.map fun seen => seen.2.1))
    (separate relaying ⟨"table", 0⟩ "list" apart)
  have quiet : (appearances (isWatched relaying "table") ⟨"table", 0⟩ (without relaying "list")).map
      (Option.map fun seen => seen.2.1) = [some true, some false, some false] := by decide +kernel
  have disturbed : (appearances (isWatched relaying "table") ⟨"table", 0⟩ relaying).map
      (Option.map fun seen => seen.2.1) = [some true, some false, some true] := by decide +kernel
  exact absurd (quiet.symm.trans (same.trans disturbed)) (by decide)

end Dashboard

end TreeTable

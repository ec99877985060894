import TreeTable.Proofs.Dashboard.Subscription

namespace TreeTable

namespace Action

def sourcesFor (view : String) : Action → List String
  | .defineView name _ source | .attach name source => if name = view then source.toList else []
  | _ => []

def serializersFor (view : String) : Action → List String
  | .defineView name serializer _ | .setSerializer name serializer =>
    if name = view then [serializer] else []
  | _ => []

end Action

def Hook.allWishes (hook : Hook) : List String := hook.wishesFor hook.left

def Action.wishesOf (serializer : String) : Action → List String
  | .defineSerializer name _ _ (.ok plan) _ =>
    if name = serializer then plan.hook.elim [] Hook.allWishes else []
  | _ => []

section Run

variable (actions : List Action)

def sourcesOf (view : String) : List String := actions.flatMap (Action.sourcesFor view)

def serializersOf (view : String) : List String := actions.flatMap (Action.serializersFor view)

def wishesOf (serializer : String) : List String := actions.flatMap (Action.wishesOf serializer)

def requestedBy (view : String) : List String :=
  (serializersOf actions view).flatMap (wishesOf actions)

end Run

namespace Hook

theorem wishesAt_of_le {hook : Hook} {number : Nat} (spent : hook.left ≤ number) :
    hook.wishesAt number = [] := if_neg (Nat.not_lt.mpr spent)

theorem wishesAt_subset (hook : Hook) (number : Nat) : hook.wishesAt number ⊆ hook.allWishes := by
  intro name wished
  by_cases early : number < hook.left
  · exact List.mem_flatMap.mpr ⟨number, List.mem_range.mpr early, wished⟩
  · rw [wishesAt_of_le (Nat.not_lt.mp early)] at wished
    cases wished

theorem wishesFor_subset (hook : Hook) (asked : Nat) : hook.wishesFor asked ⊆ hook.allWishes := by
  intro name wished
  obtain ⟨number, _, wished⟩ := List.mem_flatMap.mp wished
  exact hook.wishesAt_subset number wished

theorem wishesAt_spend (hook : Hook) (asked number : Nat) :
    (hook.spend asked).wishesAt number = hook.wishesAt (asked + number) := by
  have left : hook.left - asked - (number + 1) = hook.left - (asked + number + 1) := by omega
  by_cases early : asked + number < hook.left
  · have still : number < hook.left - asked := by omega
    simp only [wishesAt, spend, early, still, if_true, left]
  · have late : ¬ number < hook.left - asked := by omega
    simp only [wishesAt, spend, early, late, if_false]

theorem allWishes_spend (hook : Hook) (asked : Nat) :
    (hook.spend asked).allWishes ⊆ hook.allWishes := by
  intro name wished
  obtain ⟨number, _, wished⟩ := List.mem_flatMap.mp wished
  rw [wishesAt_spend] at wished
  exact hook.wishesAt_subset _ wished

end Hook

def Presenter.allWishes (presenter : Presenter) : List String :=
  presenter.hook.elim [] Hook.allWishes

theorem Presenter.allWishes_spend (presenter : Presenter) (asked : Nat) :
    (presenter.spend asked).allWishes ⊆ presenter.allWishes := by
  obtain ⟨format, config, delegate, hook⟩ := presenter
  cases hook with
  | none => exact List.Subset.refl _
  | some hook => exact hook.allWishes_spend asked

namespace Dashboard

variable {actions : List Action} {board after : Dashboard}

def ties (board : Dashboard) (view : Handle) : Option (Handle × Option Handle) :=
  (board.views.value? view).map fun state => (state.presenter, state.source)

structure TiedAs (actions : List Action) (board : Dashboard) : Prop where
  presented : ∀ view presenter source, board.ties view = some (presenter, source) →
    presenter.name ∈ serializersOf actions view.name
  attached : ∀ view presenter source, board.ties view = some (presenter, some source) →
    source.name ∈ sourcesOf actions view.name
  wished : ∀ handle presenter, board.presenters.value? handle = some presenter →
    presenter.allWishes ⊆ wishesOf actions handle.name

theorem tiedAs_empty (loop : Loop) : TiedAs actions { loop } where
  presented := fun _ _ _ tied => by cases tied
  attached := fun _ _ _ tied => by cases tied
  wished := fun _ _ stored => by cases stored

theorem name_of_findAttachable {name : Option String} {source : Handle}
    (found : board.findAttachable name = .ok (some source)) : name = some source.name := by
  cases name with
  | none => cases found
  | some name =>
    simp only [findAttachable, bind_eq_ok, pure_eq_ok] at found
    obtain ⟨⟨handle, object⟩, kept, same⟩ := found
    split at same
    · cases same
      rw [name_of_find kept]
    · contradiction

theorem ties_setView (board : Dashboard) (view other : Handle) (state : View) :
    (board.setView view state).ties other =
      if other = view then some (state.presenter, state.source) else board.ties other := by
  by_cases same : other = view <;> simp [ties, setView, same]

theorem ties_requestUpdate (board : Dashboard) (view other : Handle) :
    (board.requestUpdate view).ties other = board.ties other := by
  unfold ties
  rw [value?_requestUpdate]
  cases board.views.value? other with
  | none => rfl
  | some state => by_cases same : other = view <;> simp [same]

theorem ties_notify (board : Dashboard) (source view : Handle) :
    (board.notify source).ties view = board.ties view :=
  notify_induction (P := fun after => after.ties view = board.ties view) source rfl
    (fun _ told same => (ties_requestUpdate _ told view).trans same)
    (fun _ _ _ same => same) (fun _ _ _ same => same) (fun _ _ same => same)

theorem presenters_notify (board : Dashboard) (source : Handle) :
    (board.notify source).presenters = board.presenters :=
  notify_induction (P := fun after => after.presenters = board.presenters) source rfl
    (fun before told same => by
      obtain ⟨_, _, _, result⟩ := requestUpdate_frame before told
      rw [result]
      exact same)
    (fun _ _ _ same => same) (fun _ _ _ same => same) (fun _ _ same => same)

theorem ties_attach (board : Dashboard) (view other : Handle) (source : Option Handle) :
    (board.attach view source).ties other =
      if other = view then (board.ties view).map fun tied => (tied.1, source)
      else board.ties other := by
  unfold attach
  cases stored : board.views.value? view with
  | none => by_cases same : other = view <;> simp [ties, same, stored]
  | some state =>
    have heard : ∀ before : Dashboard, (before.listen view source).ties other =
        before.ties other := by
      intro before
      cases source <;> rfl
    have left : (board.leave view state.source).ties other = board.ties other := by
      cases state.source <;> rfl
    refine (heard _).trans ?_
    rw [ties_requestUpdate, ties_setView, left]
    by_cases same : other = view <;> simp [ties, same, stored]

theorem ties_setPresenter (board : Dashboard) (view other presenter : Handle) :
    (setPresenter board view presenter).ties other =
      if other = view then (board.ties view).map fun tied => (presenter, tied.2)
      else board.ties other := by
  unfold setPresenter
  cases stored : board.views.value? view with
  | none => by_cases same : other = view <;> simp [ties, same, stored]
  | some state =>
    dsimp only
    rw [ties_requestUpdate, ties_setView]
    by_cases same : other = view <;> simp [ties, same, stored]

theorem ties_render (kept : board.WellKept) (view other : Handle) :
    (board.render view).2.ties other = board.ties other := by
  cases stored : board.views.value? view with
  | none => rw [render_of_missing stored]
  | some state =>
    obtain ⟨presenter, chosen⟩ := Option.isSome_iff_exists.mp (kept.presented view state stored)
    unfold ties
    rw [value?_render stored chosen]
    by_cases same : other = view <;> cases board.views.value? other <;> simp [same]

namespace TiedAs

theorem presenter_mem (tied : TiedAs actions board) {view : Handle} {state : View}
    (stored : board.views.value? view = some state) :
    state.presenter.name ∈ serializersOf actions view.name :=
  tied.presented view state.presenter state.source (by simp [ties, stored])

theorem source_mem (tied : TiedAs actions board) {view source : Handle} {state : View}
    (stored : board.views.value? view = some state) (shown : state.source = some source) :
    source.name ∈ sourcesOf actions view.name :=
  tied.attached view state.presenter source (by simp [ties, stored, shown])

theorem of_same (tied : TiedAs actions board) (views : ∀ view, after.ties view = board.ties view)
    (presenters : after.presenters = board.presenters) : TiedAs actions after := by
  constructor <;> simp only [views, presenters]
  · exact tied.presented
  · exact tied.attached
  · exact tied.wished

theorem putPresenter (tied : TiedAs actions board) {handle : Handle} {presenter : Presenter}
    (wished : presenter.allWishes ⊆ wishesOf actions handle.name) :
    TiedAs actions { board with presenters := board.presenters.put handle presenter } := by
  refine ⟨tied.presented, tied.attached, ?_⟩
  intro other found stored
  by_cases same : other = handle
  · subst same
    simp only [Entries.value?_put_self, Option.some.injEq] at stored
    exact stored ▸ wished
  · simp only [Entries.value?_put_of_ne _ _ same] at stored
    exact tied.wished other found stored

theorem setView (tied : TiedAs actions board) {view : Handle} {state : View}
    (presented : state.presenter.name ∈ serializersOf actions view.name)
    (attached : ∀ source, state.source = some source → source.name ∈ sourcesOf actions view.name) :
    TiedAs actions (board.setView view state) := by
  refine ⟨?_, ?_, tied.wished⟩
  · intro other presenter source found
    rw [ties_setView] at found
    split at found
    · rename_i same
      cases found
      exact same ▸ presented
    · exact tied.presented other presenter source found
  · intro other presenter source found
    rw [ties_setView] at found
    split at found
    · rename_i same
      simp only [Option.some.injEq, Prod.mk.injEq] at found
      exact same ▸ attached source found.2
    · exact tied.attached other presenter source found

theorem attach (tied : TiedAs actions board) {view : Handle} {source : Option Handle}
    (attached : ∀ handle, source = some handle → handle.name ∈ sourcesOf actions view.name) :
    TiedAs actions (board.attach view source) := by
  obtain ⟨_, _, _, _, framed⟩ := attach_frame board view source
  refine ⟨?_, ?_, framed ▸ tied.wished⟩
  · intro other presenter shown found
    rw [ties_attach] at found
    split at found
    · rename_i same
      obtain ⟨⟨chosen, previous⟩, before, moved⟩ := Option.map_eq_some_iff.mp found
      cases moved
      exact same ▸ tied.presented view chosen previous before
    · exact tied.presented other presenter shown found
  · intro other presenter shown found
    rw [ties_attach] at found
    split at found
    · rename_i same
      obtain ⟨_, _, moved⟩ := Option.map_eq_some_iff.mp found
      simp only [Prod.mk.injEq] at moved
      exact same ▸ attached shown moved.2
    · exact tied.attached other presenter shown found

theorem setPresenter (tied : TiedAs actions board) {view presenter : Handle}
    (presented : presenter.name ∈ serializersOf actions view.name) :
    TiedAs actions (Dashboard.setPresenter board view presenter) := by
  obtain ⟨_, _, _, framed⟩ := setPresenter_frame board view presenter
  refine ⟨?_, ?_, framed ▸ tied.wished⟩
  · intro other chosen shown found
    rw [ties_setPresenter] at found
    split at found
    · rename_i same
      obtain ⟨_, _, changed⟩ := Option.map_eq_some_iff.mp found
      cases changed
      exact same ▸ presented
    · exact tied.presented other chosen shown found
  · intro other chosen shown found
    rw [ties_setPresenter] at found
    split at found
    · rename_i same
      obtain ⟨⟨previous, showed⟩, before, changed⟩ := Option.map_eq_some_iff.mp found
      cases changed
      exact same ▸ tied.attached view previous shown before
    · exact tied.attached other chosen shown found

theorem render (tied : TiedAs actions board) (kept : board.WellKept) (view : Handle) :
    TiedAs actions (board.render view).2 := by
  cases stored : board.views.value? view with
  | none => exact (render_of_missing stored).symm ▸ tied
  | some state =>
    obtain ⟨presenter, chosen⟩ := Option.isSome_iff_exists.mp (kept.presented view state stored)
    obtain ⟨views, log, rendered, _⟩ := render_eq stored chosen
    have wished := tied.wished state.presenter presenter chosen
    have spent := tied.putPresenter <| List.Subset.trans (presenter.allWishes_spend
      ((board.lower view).draw presenter state.source).asked) wished
    have same := ties_render kept view
    constructor
    · simp only [same]
      exact tied.presented
    · simp only [same]
      exact tied.attached
    · rw [rendered]
      exact spent.wished

theorem runAll (tied : TiedAs actions board) (kept : board.WellKept) (batch : List Handle) :
    TiedAs actions (Dashboard.runAll batch board).2 := by
  induction batch generalizing board with
  | nil => exact tied
  | cons view rest ih =>
    have rendered := tied.render kept view
    have keptAfter := kept.render view
    unfold Dashboard.runAll
    split
    · rename_i result
      rw [result] at rendered keptAfter
      exact ih rendered keptAfter
    · rename_i result
      rw [result] at rendered keptAfter
      split
      · exact ih rendered keptAfter
      · exact rendered

theorem defineView (tied : TiedAs actions board) {name serializer : String}
    {source : Option String} (among : Action.defineView name serializer source ∈ actions)
    (done : board.defineView name serializer source = .ok after) : TiedAs actions after := by
  simp only [Dashboard.defineView, bind_eq_ok] at done
  obtain ⟨shown, attachable, ⟨presenter, _⟩, found, done⟩ := done
  have given : presenter.name ∈ serializersOf actions name := by
    refine List.mem_flatMap.mpr ⟨_, among, ?_⟩
    simp [Action.serializersFor, name_of_find found]
  have added : TiedAs actions (board.setView (board.views.next name) { presenter }) :=
    tied.setView given (by simp)
  split at done
  · contradiction
  · simp only [pure_eq_ok] at done
    subst done
    split
    · refine added.attach fun handle attached => ?_
      refine List.mem_flatMap.mpr ⟨_, among, ?_⟩
      simp [Action.sourcesFor, Store.next, name_of_findAttachable (attached ▸ attachable)]
    · exact added

theorem attempt (tied : TiedAs actions board) {action : Action} (among : action ∈ actions)
    {reply : Reply} (done : board.attempt action = .ok (reply, after)) : TiedAs actions after := by
  cases action with
  | defineSerializer name format config plan options =>
    simp only [Dashboard.attempt, Dashboard.defineSerializer, bind_eq_ok, pure_eq_ok,
      Prod.mk.injEq] at done
    obtain ⟨_, ⟨_, _, given, planned, _, _, rfl⟩, _, rfl⟩ := done
    refine tied.putPresenter fun wish wished => ?_
    refine List.mem_flatMap.mpr ⟨_, among, ?_⟩
    simpa [Action.wishesOf, planned, Store.next, Presenter.allWishes] using wished
  | setOption serializer option value =>
    simp only [Dashboard.attempt, Dashboard.setOption, bind_eq_ok, pure_eq_ok,
      Prod.mk.injEq] at done
    obtain ⟨_, ⟨⟨handle, presenter⟩, found, done⟩, _, rfl⟩ := done
    split at done
    · simp only [pure_eq_ok] at done
      subst done
      exact tied.of_same (fun _ => rfl) rfl
    · simp only [pure_eq_ok] at done
      subst done
      exact tied.putPresenter (tied.wished handle presenter (find_eq_ok found))
  | defineView name serializer source =>
    simp only [Dashboard.attempt, bind_eq_ok, pure_eq_ok, Prod.mk.injEq] at done
    obtain ⟨_, defined, _, rfl⟩ := done
    exact tied.defineView among defined
  | attach name source =>
    simp only [Dashboard.attempt, bind_eq_ok, pure_eq_ok, Prod.mk.injEq] at done
    obtain ⟨⟨view, _⟩, found, shown, attachable, _, rfl⟩ := done
    refine tied.attach fun handle attached => ?_
    refine List.mem_flatMap.mpr ⟨_, among, ?_⟩
    simp [Action.sourcesFor, name_of_find found,
      name_of_findAttachable (attached ▸ attachable)]
  | setSerializer name serializer =>
    simp only [Dashboard.attempt, bind_eq_ok, pure_eq_ok, Prod.mk.injEq] at done
    obtain ⟨⟨view, _⟩, found, ⟨presenter, _⟩, chosen, _, rfl⟩ := done
    refine tied.setPresenter (List.mem_flatMap.mpr ⟨_, among, ?_⟩)
    simp [Action.serializersFor, name_of_find found, name_of_find chosen]
  | request name =>
    simp only [Dashboard.attempt, bind_eq_ok, pure_eq_ok, Prod.mk.injEq] at done
    obtain ⟨⟨view, _⟩, _, _, rfl⟩ := done
    obtain ⟨_, _, _, framed⟩ := requestUpdate_frame board view
    exact tied.of_same (ties_requestUpdate board view) (framed ▸ rfl)
  | call name call =>
    simp only [Dashboard.attempt, Dashboard.call, bind_eq_ok, pure_eq_ok, Prod.mk.injEq] at done
    obtain ⟨⟨source, observed, content⟩, _, call, _, ⟨_, changed⟩, _, _, rfl⟩ := done
    cases changed with
    | none => cases call <;> exact tied.of_same (fun _ => rfl) rfl
    | some content =>
      cases call <;>
        exact tied.of_same (fun view => ties_notify _ source view) (presenters_notify _ source)
  | defineSource name content | render name | turn =>
    simp only [Dashboard.attempt, Except.ok.injEq, Prod.mk.injEq] at done
    obtain ⟨_, rfl⟩ := done
    exact tied.of_same (fun _ => rfl) rfl
  | defineConfig | setConfig | setFaults =>
    simp only [Dashboard.attempt, bind_eq_ok, pure_eq_ok, Prod.mk.injEq] at done
    obtain ⟨_, _, _, rfl⟩ := done
    exact tied.of_same (fun _ => rfl) rfl
  | _ =>
    obtain ⟨_, rfl⟩ := attempt_aside rfl done
    exact tied.of_same (fun _ => rfl) rfl

theorem afterFailure (tied : TiedAs actions board) (action : Action) :
    TiedAs actions (board.afterFailure action) := by
  unfold Dashboard.afterFailure
  split
  · split
    · exact tied
    · exact tied.of_same (fun _ => rfl) rfl
  · exact tied

theorem perform (tied : TiedAs actions board) (kept : board.WellKept) {action : Action}
    (among : action ∈ actions) : TiedAs actions (board.perform action).2 := by
  unfold Dashboard.perform
  cases action with
  | render name =>
    dsimp only
    split
    · exact tied
    · exact tied.render kept _
  | turn =>
    have queued : TiedAs actions { board with queue := [] } := tied.of_same (fun _ => rfl) rfl
    exact queued.runAll (kept.withQueue []) board.queue
  | _ =>
    dsimp only
    split
    · rename_i result
      exact tied.attempt among result
    · dsimp only
      exact tied.afterFailure _

end TiedAs

end Dashboard

end TreeTable

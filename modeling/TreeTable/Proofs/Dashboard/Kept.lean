import TreeTable.Proofs.Dashboard.Request

namespace TreeTable.Dashboard

structure WellKept (board : Dashboard) : Prop where
  configs : board.configs.Numbered
  presenters : board.presenters.Numbered
  sources : board.sources.Numbered
  views : board.views.Numbered
  configured : ∀ handle presenter config, board.presenters.value? handle = some presenter →
    presenter.config = .shared config → (board.configs.value? config).isSome
  presented : ∀ view state, board.views.value? view = some state →
    (board.presenters.value? state.presenter).isSome
  attached : ∀ view state source, board.views.value? view = some state →
    state.source = some source → (board.sources.value? source).isSome

namespace WellKept

variable {board after : Dashboard}

theorem of_stores (kept : board.WellKept) (configs : after.configs = board.configs)
    (presenters : after.presenters = board.presenters) (sources : after.sources = board.sources)
    (views : after.views = board.views) : after.WellKept := by
  constructor <;> simp only [configs, presenters, sources, views]
  · exact kept.configs
  · exact kept.presenters
  · exact kept.sources
  · exact kept.views
  · exact kept.configured
  · exact kept.presented
  · exact kept.attached

theorem setView (kept : board.WellKept) {view : Handle} {state : View}
    (numbered : Store.Numbered (board.views.put view state))
    (presented : (board.presenters.value? state.presenter).isSome)
    (attached : ∀ source, state.source = some source → (board.sources.value? source).isSome) :
    (board.setView view state).WellKept := by
  refine { kept with views := numbered, presented := ?_, attached := ?_ }
  · intro other found stored
    by_cases same : other = view
    · subst same
      simp only [Dashboard.setView, Entries.value?_put_self, Option.some.injEq] at stored
      exact stored ▸ presented
    · simp only [Dashboard.setView, Entries.value?_put_of_ne _ _ same] at stored
      exact kept.presented other found stored
  · intro other found source stored shown
    by_cases same : other = view
    · subst same
      simp only [Dashboard.setView, Entries.value?_put_self, Option.some.injEq] at stored
      exact attached source (stored ▸ shown)
    · simp only [Dashboard.setView, Entries.value?_put_of_ne _ _ same] at stored
      exact kept.attached other found source stored shown

theorem setView_known (kept : board.WellKept) {view : Handle} {old : View} (state : View)
    (known : board.views.value? view = some old)
    (presented : (board.presenters.value? state.presenter).isSome)
    (attached : ∀ source, state.source = some source → (board.sources.value? source).isSome) :
    (board.setView view state).WellKept :=
  kept.setView (kept.views.put_known (by simp [known]) state) presented attached

theorem requestUpdate (kept : board.WellKept) (view : Handle) :
    (board.requestUpdate view).WellKept := by
  cases idle : board.isIdle view with
  | false => exact (requestUpdate_of_not_idle idle).symm ▸ kept
  | true =>
    obtain ⟨state, notice, known, _, result⟩ := requestUpdate_of_idle idle
    have raised : (board.setView view { state with pending := true }).WellKept :=
      kept.setView_known _ known (kept.presented view state known)
        (fun source => kept.attached view state source known)
    rw [result]
    exact raised.of_stores rfl rfl rfl rfl

theorem setSource (kept : board.WellKept) {source : Handle} {observed : Observed}
    (numbered : Store.Numbered (board.sources.put source observed)) :
    (board.setSource source observed).WellKept := by
  refine { kept with sources := numbered, attached := ?_ }
  intro view state other stored shown
  have known := kept.attached view state other stored shown
  exact (Store.isSome_value?_put _ _ _ _).mpr (Or.inr known)

theorem relisten (kept : board.WellKept) (source : Handle)
    (change : Array Listener → Array Listener) : (board.relisten source change).WellKept := by
  have numbered : (board.relisten source change).sources.Numbered :=
    kept.sources.alter source fun observed =>
      { observed with listeners := change observed.listeners }
  refine { kept with sources := numbered, attached := ?_ }
  intro view state other stored shown
  have known := kept.attached view state other stored shown
  simpa [Dashboard.relisten, Entries.value?_alter] using known

theorem subscribe (kept : board.WellKept) (source : Handle) (listener : Listener) :
    (board.subscribe source listener).WellKept := kept.relisten source _

theorem unsubscribe (kept : board.WellKept) (source : Handle) (listener : Listener) :
    (board.unsubscribe source listener).WellKept := kept.relisten source _

theorem notify (kept : board.WellKept) (source : Handle) : (board.notify source).WellKept :=
  notify_induction source kept (fun _ view kept => kept.requestUpdate view)
    (fun _ source _ kept => kept.subscribe source _)
    (fun _ source _ kept => kept.unsubscribe source _)
    (fun _ _ kept => kept.of_stores rfl rfl rfl rfl)

theorem putPresenter (kept : board.WellKept) {handle : Handle} {presenter : Presenter}
    (numbered : Store.Numbered (board.presenters.put handle presenter))
    (configured : ∀ config, presenter.config = .shared config →
      (board.configs.value? config).isSome) :
    WellKept { board with presenters := board.presenters.put handle presenter } := by
  refine { kept with presenters := numbered, configured := ?_, presented := ?_ }
  · intro other found config stored refers
    by_cases same : other = handle
    · subst same
      simp only [Entries.value?_put_self, Option.some.injEq] at stored
      exact configured config (stored ▸ refers)
    · simp only [Entries.value?_put_of_ne _ _ same] at stored
      exact kept.configured other found config stored refers
  · intro view state stored
    exact (Store.isSome_value?_put _ _ _ _).mpr (Or.inr (kept.presented view state stored))

theorem putConfig (kept : board.WellKept) {handle : Handle} {config : Config}
    (numbered : Store.Numbered (board.configs.put handle config)) :
    WellKept { board with configs := board.configs.put handle config } := by
  refine { kept with configs := numbered, configured := ?_ }
  intro other presenter shared stored refers
  have known := kept.configured other presenter shared stored refers
  exact (Store.isSome_value?_put _ _ _ _).mpr (Or.inr known)

theorem leave (kept : board.WellKept) (view : Handle) (source : Option Handle) :
    (board.leave view source).WellKept := by
  cases source with
  | none => exact kept
  | some source => exact kept.unsubscribe source _

theorem listen (kept : board.WellKept) (view : Handle) (source : Option Handle) :
    (board.listen view source).WellKept := by
  cases source with
  | none => exact kept
  | some source => exact kept.subscribe source _

theorem moved (kept : board.WellKept) {view : Handle} {state : View}
    (stored : board.views.value? view = some state) {source : Option Handle}
    (known : ∀ handle, source = some handle → (board.sources.value? handle).isSome) :
    ((board.leave view state.source).setView view { state with source }).WellKept := by
  have left := kept.leave view state.source
  have presenters : (board.leave view state.source).presenters = board.presenters := by
    cases state.source <;> rfl
  rw [← views_leave board view state.source] at stored
  refine left.setView_known { state with source } stored ?_ ?_
  · rw [views_leave] at stored
    exact presenters ▸ kept.presented view state stored
  · intro handle shown
    have found := known handle shown
    cases state.source with
    | none => exact found
    | some previous =>
      simpa [Dashboard.leave, Dashboard.unsubscribe, Dashboard.relisten, Entries.value?_alter]
        using found

theorem attach (kept : board.WellKept) (view : Handle) {source : Option Handle}
    (known : ∀ handle, source = some handle → (board.sources.value? handle).isSome) :
    (board.attach view source).WellKept := by
  unfold Dashboard.attach
  split
  · exact kept
  · rename_i state stored
    have requested := (kept.moved stored known).requestUpdate view
    exact (requested.listen view source).of_stores rfl rfl rfl rfl

theorem setPresenter (kept : board.WellKept) (view : Handle) {presenter : Handle}
    (known : (board.presenters.value? presenter).isSome) :
    (Dashboard.setPresenter board view presenter).WellKept := by
  unfold Dashboard.setPresenter
  split
  · exact kept
  · rename_i state stored
    have changed := kept.setView_known { state with presenter } stored known
      (fun source => kept.attached view state source stored)
    exact changed.requestUpdate view

theorem requestAll (kept : board.WellKept) (views : List Handle) :
    (views.foldl Dashboard.requestUpdate board).WellKept := by
  induction views generalizing board with
  | nil => exact kept
  | cons view rest ih => exact ih (kept.requestUpdate view)

theorem settleHook (kept : board.WellKept) {handle : Handle} {presenter : Presenter}
    (known : board.presenters.value? handle = some presenter) (asked : Nat) :
    (board.settleHook handle presenter asked).WellKept := by
  apply requestAll
  apply kept.putPresenter (kept.presenters.put_known (by simp [known]) _)
  intro config refers
  exact kept.configured handle presenter config known refers

theorem publish (kept : board.WellKept) (view : Handle) (title : String)
    (outcome : Except Failure Value) : (board.publish view title outcome).2.WellKept := by
  unfold Dashboard.publish
  split
  · exact kept
  · rename_i state stored
    cases outcome with
    | ok text =>
      have shown := kept.setView_known { state with text, renders := state.renders + 1 }
        stored (kept.presented view state stored)
        (fun source => kept.attached view state source stored)
      dsimp only
      split
      · exact shown.of_stores rfl rfl rfl rfl
      · exact shown
    | error failure =>
      dsimp only
      split
      · exact kept.of_stores rfl rfl rfl rfl
      · exact kept

theorem lower (kept : board.WellKept) (view : Handle) : (board.lower view).WellKept := by
  unfold Dashboard.lower
  split
  · exact kept
  · rename_i state stored
    exact kept.setView_known { state with pending := false } stored
      (kept.presented view state stored) (fun source => kept.attached view state source stored)

theorem render (kept : board.WellKept) (view : Handle) : (board.render view).2.WellKept := by
  unfold Dashboard.render
  split
  · exact kept
  · rename_i state stored
    dsimp only
    split
    · exact kept.lower view
    · rename_i presenter chosen
      apply publish
      have settled := (kept.lower view).settleHook chosen
        ((board.lower view).draw presenter state.source).asked
      split
      · exact settled
      · exact settled.of_stores rfl rfl rfl rfl

theorem runAll (kept : board.WellKept) (batch : List Handle) :
    (Dashboard.runAll batch board).2.WellKept := by
  induction batch generalizing board with
  | nil => exact kept
  | cons view rest ih =>
    have rendered := kept.render view
    unfold Dashboard.runAll
    split
    · rename_i result
      rw [result] at rendered
      exact ih rendered
    · rename_i result
      rw [result] at rendered
      split
      · exact ih rendered
      · exact rendered

theorem withQueue (kept : board.WellKept) (queue : List Handle) :
    WellKept { board with queue } := kept.of_stores rfl rfl rfl rfl

theorem turn (kept : board.WellKept) : board.turn.2.WellKept :=
  (kept.withQueue []).runAll board.queue

end WellKept

end TreeTable.Dashboard

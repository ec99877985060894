import TreeTable.Dashboard.Action
import TreeTable.Proofs.Dashboard.Store

namespace TreeTable.Dashboard

def isPending (board : Dashboard) (view : Handle) : Bool :=
  (board.views.value? view).any View.pending

def isIdle (board : Dashboard) (view : Handle) : Bool :=
  (board.views.value? view).any fun state => !state.pending

def shows (board : Dashboard) (view : Handle) : Option Handle :=
  (board.views.value? view).bind View.source

theorem requestUpdate_of_not_idle {board : Dashboard} {view : Handle}
    (busy : board.isIdle view = false) : board.requestUpdate view = board := by
  unfold requestUpdate
  cases kept : board.views.value? view with
  | none => rfl
  | some state => simp_all [isIdle]

theorem requestUpdate_of_idle {board : Dashboard} {view : Handle} (idle : board.isIdle view) :
    ∃ state notice, board.views.value? view = some state ∧ state.pending = false ∧
      board.requestUpdate view = { board with
        views := board.views.put view { state with pending := true }
        queue := board.queue ++ [view]
        log := board.log ++ [notice] } := by
  unfold requestUpdate
  cases kept : board.views.value? view with
  | none => simp [isIdle, kept] at idle
  | some state =>
    have rested : state.pending = false := by simpa [isIdle, kept] using idle
    exact ⟨state, _, rfl, rested, by simp [rested, setView, note]; rfl⟩

theorem value?_requestUpdate (board : Dashboard) (view other : Handle) :
    (board.requestUpdate view).views.value? other =
      (board.views.value? other).map fun state =>
        if other = view then { state with pending := true } else state := by
  cases idle : board.isIdle view with
  | false =>
    rw [requestUpdate_of_not_idle idle]
    by_cases same : other = view
    · subst same
      cases kept : board.views.value? other with
      | none => rfl
      | some state =>
        have pending : state.pending = true := by simpa [isIdle, kept] using idle
        obtain ⟨presenter, source, _, text, renders⟩ := state
        simp_all
    · simp [same]
  | true =>
    obtain ⟨state, notice, kept, rested, result⟩ := requestUpdate_of_idle idle
    rw [result]
    by_cases same : other = view
    · simp [same, kept]
    · simp [same]

theorem queue_requestUpdate (board : Dashboard) (view : Handle) :
    (board.requestUpdate view).queue = board.queue ++ if board.isIdle view then [view] else [] := by
  cases idle : board.isIdle view with
  | false => simp [requestUpdate_of_not_idle idle]
  | true =>
    obtain ⟨state, notice, kept, rested, result⟩ := requestUpdate_of_idle idle
    simp [result]

theorem requestUpdate_frame (board : Dashboard) (view : Handle) :
    ∃ views queue log, board.requestUpdate view = { board with views, queue, log } := by
  cases idle : board.isIdle view with
  | false => exact ⟨_, _, _, requestUpdate_of_not_idle idle⟩
  | true =>
    obtain ⟨state, notice, kept, rested, result⟩ := requestUpdate_of_idle idle
    exact ⟨_, _, _, result⟩

theorem isPending_requestUpdate (board : Dashboard) (view other : Handle) :
    (board.requestUpdate view).isPending other =
      if other = view then (board.views.value? view).isSome else board.isPending other := by
  unfold isPending
  rw [value?_requestUpdate]
  split
  · rename_i same
    subst same
    cases board.views.value? other <;> rfl
  · simp

theorem views_leave (board : Dashboard) (view : Handle) (source : Option Handle) :
    (board.leave view source).views = board.views := by
  cases source <;> rfl

theorem views_listen (board : Dashboard) (view : Handle) (source : Option Handle) :
    (board.listen view source).views = board.views := by
  cases source <;> rfl

theorem attach_frame (board : Dashboard) (view : Handle) (source : Option Handle) :
    ∃ sources views queue log,
      board.attach view source = { board with sources, views, queue, log } := by
  unfold attach
  split
  · exact ⟨_, _, _, _, rfl⟩
  · rename_i state _
    obtain ⟨_, _, _, requested⟩ := requestUpdate_frame
      ((board.leave view state.source).setView view { state with source }) view
    dsimp only
    rw [requested]
    cases state.source <;> cases source <;> exact ⟨_, _, _, _, rfl⟩

theorem setPresenter_frame (board : Dashboard) (view presenter : Handle) :
    ∃ views queue log, setPresenter board view presenter = { board with views, queue, log } := by
  unfold setPresenter
  split
  · exact ⟨_, _, _, rfl⟩
  · rename_i state _
    obtain ⟨_, _, _, requested⟩ := requestUpdate_frame
      (board.setView view { state with presenter }) view
    exact ⟨_, _, _, requested⟩

theorem tellAll_induction {P : Dashboard → Prop} (source : Handle)
    (request : ∀ board view, P board → P (board.requestUpdate view))
    (subscribe : ∀ board source bell, P board → P (board.subscribe source (.bell bell)))
    (unsubscribe : ∀ board source bell, P board → P (board.unsubscribe source (.bell bell)))
    (ring : ∀ (board : Dashboard) rung, P board → P { board with rung })
    (listeners : List Listener) (board : Dashboard) (start : P board) :
    P (listeners.foldl (tell source) board) := by
  have follows : ∀ (script : List (Bool × String)) board, P board →
      P (script.foldl (follow source) board) := by
    intro script
    induction script with
    | nil => exact fun _ start => start
    | cons line rest ih =>
      intro board start
      apply ih
      unfold follow
      split
      · exact subscribe board source line.2 start
      · exact unsubscribe board source line.2 start
  induction listeners generalizing board with
  | nil => exact start
  | cons listener rest ih =>
    apply ih
    cases listener with
    | view view => exact request board view start
    | bell bell => exact follows _ _ (ring board _ start)

theorem notify_eq {board : Dashboard} {source : Handle} {observed : Observed}
    (known : board.sources.value? source = some observed) :
    board.notify source = observed.listeners.toList.foldl (tell source) board := by
  unfold notify
  rw [known]
  exact (Array.foldl_toList _).symm

theorem notify_induction {P : Dashboard → Prop} {board : Dashboard} (source : Handle)
    (start : P board) (request : ∀ board view, P board → P (board.requestUpdate view))
    (subscribe : ∀ board source bell, P board → P (board.subscribe source (.bell bell)))
    (unsubscribe : ∀ board source bell, P board → P (board.unsubscribe source (.bell bell)))
    (ring : ∀ (board : Dashboard) rung, P board → P { board with rung }) :
    P (board.notify source) := by
  cases known : board.sources.value? source with
  | none =>
    unfold notify
    rw [known]
    exact start
  | some observed =>
    rw [notify_eq known]
    exact tellAll_induction source request subscribe unsubscribe ring _ board start

end TreeTable.Dashboard

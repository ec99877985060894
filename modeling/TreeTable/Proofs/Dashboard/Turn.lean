import TreeTable.Proofs.Dashboard.Kept

namespace TreeTable

def View.publish (state : View) : Except Failure Value → View
  | .ok text => { state with text, renders := state.renders + 1 }
  | .error _ => state

@[simp] theorem View.presenter_publish (state : View) (outcome : Except Failure Value) :
    (state.publish outcome).presenter = state.presenter := by
  cases outcome <;> rfl

@[simp] theorem View.source_publish (state : View) (outcome : Except Failure Value) :
    (state.publish outcome).source = state.source := by
  cases outcome <;> rfl

@[simp] theorem View.pending_publish (state : View) (outcome : Except Failure Value) :
    (state.publish outcome).pending = state.pending := by
  cases outcome <;> rfl

namespace Dashboard

variable {board after : Dashboard}

def requestsOf (board : Dashboard) (view : Handle) : List Handle :=
  match board.views.value? view with
  | none => []
  | some state =>
    match (board.lower view).presenters.value? state.presenter with
    | none => []
    | some presenter =>
      let rendering := (board.lower view).draw presenter state.source
      (board.lower view).wanted presenter rendering.asked

/-- The renders that a batch comes to, each with the dashboard that it begins in. -/
def rendersOf : (batch : List Handle) → Dashboard → List (Handle × Dashboard)
  | [], _ => []
  | view :: rest, board =>
    (view, board) :: match board.render view with
      | (.ok _, after) => rendersOf rest after
      | (.error _, after) => if after.loop = .forgiving then rendersOf rest after else []

def turnRenders (board : Dashboard) : List (Handle × Dashboard) :=
  rendersOf board.queue { board with queue := [] }

theorem value?_requestAll (views : List Handle) (board : Dashboard) (other : Handle) :
    (views.foldl requestUpdate board).views.value? other =
      (board.views.value? other).map fun state =>
        { state with pending := state.pending || views.contains other } := by
  induction views generalizing board with
  | nil => simp
  | cons view rest ih =>
    rw [List.foldl_cons, ih, value?_requestUpdate]
    cases board.views.value? other with
    | none => rfl
    | some state => by_cases same : other = view <;> simp [same]

theorem isPending_requestAll (views : List Handle) (board : Dashboard) (other : Handle) :
    (views.foldl requestUpdate board).isPending other =
      (board.isPending other || (views.contains other && (board.views.value? other).isSome)) := by
  unfold isPending
  rw [value?_requestAll]
  cases board.views.value? other <;> simp

theorem requestUpdate_congr {left right : Dashboard} (views : left.views = right.views)
    (queue : left.queue = right.queue) (view : Handle) :
    (left.requestUpdate view).views = (right.requestUpdate view).views ∧
      (left.requestUpdate view).queue = (right.requestUpdate view).queue := by
  have idle : left.isIdle view = right.isIdle view := by simp only [isIdle, views]
  cases waits : left.isIdle view with
  | false =>
    rw [requestUpdate_of_not_idle waits, requestUpdate_of_not_idle (idle ▸ waits)]
    exact ⟨views, queue⟩
  | true =>
    obtain ⟨_, _, kept, _, result⟩ := requestUpdate_of_idle waits
    obtain ⟨_, _, kept', _, result'⟩ := requestUpdate_of_idle (idle ▸ waits)
    rw [views, kept', Option.some.injEq] at kept
    rw [result, result', kept, views, queue]
    exact ⟨rfl, rfl⟩

theorem requestAll_congr {left right : Dashboard} (views : left.views = right.views)
    (queue : left.queue = right.queue) (requests : List Handle) :
    (requests.foldl requestUpdate left).views = (requests.foldl requestUpdate right).views ∧
      (requests.foldl requestUpdate left).queue = (requests.foldl requestUpdate right).queue := by
  induction requests generalizing left right with
  | nil => exact ⟨views, queue⟩
  | cons view rest ih =>
    obtain ⟨views, queue⟩ := requestUpdate_congr views queue view
    exact ih views queue

theorem value?_lower (board : Dashboard) (view other : Handle) :
    (board.lower view).views.value? other = (board.views.value? other).map fun state =>
      if other = view then { state with pending := false } else state := by
  unfold lower
  split
  · rename_i missing
    by_cases same : other = view <;> simp [same, missing]
  · rename_i state stored
    by_cases same : other = view <;> simp [same, setView, stored]

theorem isPending_lower (board : Dashboard) (view other : Handle) :
    (board.lower view).isPending other = (board.isPending other && other != view) := by
  unfold isPending
  rw [value?_lower]
  by_cases same : other = view <;> cases board.views.value? other <;> simp [same]

theorem presenters_lower (board : Dashboard) (view : Handle) :
    (board.lower view).presenters = board.presenters := by
  unfold lower
  split <;> rfl

theorem isSome_value?_lower (board : Dashboard) (view other : Handle) :
    ((board.lower view).views.value? other).isSome = (board.views.value? other).isSome := by
  rw [value?_lower, Option.isSome_map]

theorem queue_lower (board : Dashboard) (view : Handle) :
    (board.lower view).queue = board.queue := by
  unfold lower
  split <;> rfl

theorem lower_eq {view : Handle} {state : View} (stored : board.views.value? view = some state) :
    board.lower view = board.setView view { state with pending := false } := by
  unfold lower
  rw [stored]

theorem requestsOf_eq {view : Handle} {state : View} {presenter : Presenter}
    (stored : board.views.value? view = some state)
    (chosen : board.presenters.value? state.presenter = some presenter) :
    board.requestsOf view = (board.lower view).wanted presenter
      ((board.lower view).draw presenter state.source).asked := by
  unfold requestsOf
  rw [stored]
  dsimp only
  rw [presenters_lower, chosen]

theorem publish_eq (board : Dashboard) (view : Handle) (title : String)
    (outcome : Except Failure Value) :
    ∃ views log, (board.publish view title outcome).2 = { board with views, log } ∧
      ∀ other, Entries.value? views other = (board.views.value? other).map fun found =>
        if other = view then found.publish outcome else found := by
  have unchanged : ∀ other, board.views.value? other = (board.views.value? other).map
      fun found => if other = view then found.publish (.error .noSuchField) else found := by
    simp [View.publish]
  unfold publish
  cases stored : board.views.value? view with
  | none =>
    refine ⟨_, _, rfl, fun other => ?_⟩
    by_cases same : other = view <;> simp [same, stored]
  | some state =>
    cases outcome with
    | ok text =>
      have shown : ∀ other, Entries.value?
          (board.views.put view { state with text, renders := state.renders + 1 }) other =
            (board.views.value? other).map fun found =>
              if other = view then found.publish (.ok text) else found := by
        intro other
        by_cases same : other = view
        · simp [same, stored, View.publish]
        · simp [same]
      dsimp only
      split
      · exact ⟨_, _, rfl, shown⟩
      · exact ⟨_, _, rfl, shown⟩
    | error failure =>
      dsimp only
      split
      · exact ⟨_, _, rfl, unchanged⟩
      · exact ⟨_, _, rfl, unchanged⟩

theorem requestAll_frame (requests : List Handle) (board : Dashboard) :
    ∃ views queue log, requests.foldl requestUpdate board = { board with views, queue, log } := by
  induction requests generalizing board with
  | nil => exact ⟨_, _, _, rfl⟩
  | cons view rest ih =>
    obtain ⟨_, _, _, first⟩ := requestUpdate_frame board view
    obtain ⟨views, queue, log, rest⟩ := ih (board.requestUpdate view)
    refine ⟨views, queue, log, ?_⟩
    rw [List.foldl_cons, rest, first]

theorem settleHook_eq (board : Dashboard) (handle : Handle) (presenter : Presenter) (asked : Nat) :
    let requested := (board.wanted presenter asked).foldl requestUpdate board
    ∃ log, board.settleHook handle presenter asked = { board with
      presenters := board.presenters.put handle (presenter.spend asked)
      views := requested.views, queue := requested.queue, log } := by
  intro requested
  let spent : Dashboard := { board with
    presenters := board.presenters.put handle (presenter.spend asked) }
  obtain ⟨views, queue, log, framed⟩ := requestAll_frame (board.wanted presenter asked) spent
  -- spending what was asked does not show in the requests that are made
  have same : spent.views = board.views ∧ spent.queue = board.queue := ⟨rfl, rfl⟩
  obtain ⟨sameViews, sameQueue⟩ := requestAll_congr same.1 same.2 (board.wanted presenter asked)
  have settles : board.settleHook handle presenter asked =
      (board.wanted presenter asked).foldl requestUpdate spent := rfl
  refine ⟨log, ?_⟩
  rw [framed] at sameViews sameQueue
  rw [settles, framed, ← sameViews, ← sameQueue]

theorem render_eq {view : Handle} {state : View} {presenter : Presenter}
    (stored : board.views.value? view = some state)
    (chosen : board.presenters.value? state.presenter = some presenter) :
    let rendering := (board.lower view).draw presenter state.source
    let requested := (board.requestsOf view).foldl requestUpdate (board.lower view)
    ∃ views log, (board.render view).2 = { board with
        presenters := board.presenters.put state.presenter (presenter.spend rendering.asked)
        views, queue := requested.queue, log } ∧
      ∀ other, Entries.value? views other = (requested.views.value? other).map fun found =>
        if other = view then found.publish rendering.outcome else found := by
  intro rendering requested
  let drawn (log : List Notice) : Dashboard := { board with
    presenters := board.presenters.put state.presenter (presenter.spend rendering.asked)
    views := requested.views, queue := requested.queue, log }
  have settled : ∃ log, (board.lower view).settleHook state.presenter presenter rendering.asked =
      drawn log := by
    obtain ⟨log, settled⟩ := settleHook_eq (board.lower view) state.presenter presenter
      rendering.asked
    rw [← requestsOf_eq stored chosen] at settled
    refine ⟨log, settled.trans ?_⟩
    simp only [drawn, requested, lower_eq stored]
    rfl
  have rendered : ∃ log, (board.render view).2 =
      ((drawn log).publish view presenter.format.title rendering.outcome).2 := by
    obtain ⟨log, settled⟩ := settled
    unfold render
    rw [stored]
    dsimp only
    rw [presenters_lower, chosen]
    dsimp only
    rw [settled]
    cases rendering.capReached with
    | none => exact ⟨log, rfl⟩
    | some cap => exact ⟨log ++ [.capReached cap], rfl⟩
  obtain ⟨log, rendered⟩ := rendered
  obtain ⟨views, log, published, shown⟩ := publish_eq (drawn log) view presenter.format.title
    rendering.outcome
  exact ⟨views, log, rendered.trans published, shown⟩

theorem value?_render {view : Handle} {state : View} {presenter : Presenter}
    (stored : board.views.value? view = some state)
    (chosen : board.presenters.value? state.presenter = some presenter) (other : Handle) :
    let requested := (board.requestsOf view).contains other
    let outcome := ((board.lower view).draw presenter state.source).outcome
    (board.render view).2.views.value? other = (board.views.value? other).map fun found =>
      if other = view then { found with pending := requested }.publish outcome
      else { found with pending := found.pending || requested } := by
  intro requested outcome
  obtain ⟨views, log, rendered, shown⟩ := render_eq stored chosen
  rw [rendered]
  dsimp only
  rw [shown, value?_requestAll, value?_lower, Option.map_map, Option.map_map]
  congr 1
  funext found
  by_cases same : other = view <;> simp [same, requested, outcome]

theorem render_of_missing {view : Handle} (missing : board.views.value? view = none) :
    (board.render view).2 = board := by
  unfold render
  rw [missing]

theorem render_frame (board : Dashboard) (view : Handle) :
    ∃ presenters views queue log,
      (board.render view).2 = { board with presenters, views, queue, log } := by
  cases stored : board.views.value? view with
  | none => exact ⟨_, _, _, _, render_of_missing stored⟩
  | some state =>
    cases chosen : board.presenters.value? state.presenter with
    | none =>
      refine ⟨board.presenters, board.views.put view { state with pending := false }, board.queue,
        board.log, ?_⟩
      unfold render
      rw [stored]
      dsimp only
      rw [presenters_lower, chosen, lower_eq stored]
      rfl
    | some presenter =>
      obtain ⟨views, log, rendered, _⟩ := render_eq stored chosen
      exact ⟨_, _, _, _, rendered⟩

theorem render_loop (board : Dashboard) (view : Handle) :
    (board.render view).2.loop = board.loop := by
  obtain ⟨_, _, _, _, rendered⟩ := render_frame board view
  rw [rendered]

theorem queue_render (kept : board.WellKept) (view : Handle) :
    (board.render view).2.queue =
      ((board.requestsOf view).foldl requestUpdate (board.lower view)).queue := by
  cases stored : board.views.value? view with
  | none => simp [render_of_missing stored, requestsOf, lower, stored]
  | some state =>
    obtain ⟨presenter, chosen⟩ := Option.isSome_iff_exists.mp (kept.presented view state stored)
    obtain ⟨_, _, rendered, _⟩ := render_eq stored chosen
    rw [rendered]

theorem isPending_render (kept : board.WellKept) (view other : Handle) :
    (board.render view).2.isPending other =
      ((board.requestsOf view).foldl requestUpdate (board.lower view)).isPending other := by
  cases stored : board.views.value? view with
  | none => simp [render_of_missing stored, requestsOf, lower, stored]
  | some state =>
    obtain ⟨presenter, chosen⟩ := Option.isSome_iff_exists.mp (kept.presented view state stored)
    unfold isPending
    rw [value?_render stored chosen, value?_requestAll, value?_lower]
    by_cases same : other = view <;> cases board.views.value? other <;> simp [same]

theorem rendersOf_cons (forgiving : board.loop = .forgiving) (view : Handle) (rest : List Handle) :
    rendersOf (view :: rest) board = (view, board) :: rendersOf rest (board.render view).2 := by
  have loop := render_loop board view
  rw [rendersOf]
  cases result : board.render view with
  | mk outcome after =>
    rw [result] at loop
    cases outcome with
    | ok _ => rfl
    | error _ =>
      have goes : after.loop = .forgiving := loop.trans forgiving
      simp [goes]

theorem runAll_cons (forgiving : board.loop = .forgiving) (view : Handle) (rest : List Handle) :
    (runAll (view :: rest) board).2 = (runAll rest (board.render view).2).2 := by
  have loop := render_loop board view
  rw [runAll]
  cases result : board.render view with
  | mk outcome after =>
    rw [result] at loop
    cases outcome with
    | ok _ => rfl
    | error _ =>
      have goes : after.loop = .forgiving := loop.trans forgiving
      simp [goes]

theorem runAll_loop (batch : List Handle) (board : Dashboard) :
    (runAll batch board).2.loop = board.loop := by
  induction batch generalizing board with
  | nil => rfl
  | cons view rest ih =>
    have loop := render_loop board view
    unfold runAll
    split
    · rename_i result
      rw [result] at loop
      exact (ih _).trans loop
    · rename_i result
      rw [result] at loop
      split
      · exact (ih _).trans loop
      · exact loop

theorem map_rendersOf (forgiving : board.loop = .forgiving) (batch : List Handle) :
    (rendersOf batch board).map Prod.fst = batch := by
  induction batch generalizing board with
  | nil => rfl
  | cons view rest ih =>
    rw [rendersOf_cons forgiving, List.map_cons, ih ((render_loop board view).trans forgiving)]

theorem isSome_of_mem_requestsOf (kept : board.WellKept) {view other : Handle}
    (requested : other ∈ board.requestsOf view) : (board.views.value? other).isSome := by
  have reached : ∀ names, other ∈ (board.lower view).reach names →
      (board.views.value? other).isSome := by
    intro names
    induction names with
    | nil => simp [reach]
    | cons name rest ih =>
      unfold reach
      split
      · simp
      · rename_i found latest
        intro member
        rcases List.mem_cons.mp member with same | later
        · rw [same, ← isSome_value?_lower board view]
          exact (kept.lower view).views.isSome_of_latest? latest
        · exact ih later
  unfold requestsOf wanted at requested
  split at requested
  · simp at requested
  · split at requested
    · simp at requested
    · dsimp only at requested
      split at requested
      · simp at requested
      · exact reached _ requested

theorem rendersOf_split (forgiving : board.loop = .forgiving) {batch : List Handle}
    {done rest : List (Handle × Dashboard)} {view : Handle} {before : Dashboard}
    (split : rendersOf batch board = done ++ (view, before) :: rest) :
    batch = done.map Prod.fst ++ view :: rest.map Prod.fst ∧
      before = (runAll (done.map Prod.fst) board).2 ∧
      (runAll batch board).2 = (runAll (rest.map Prod.fst) (before.render view).2).2 := by
  have whole := map_rendersOf forgiving batch
  rw [split, List.map_append, List.map_cons] at whole
  refine ⟨whole.symm, ?_⟩
  induction batch generalizing board done with
  | nil => simp at whole
  | cons first others ih =>
    rw [rendersOf_cons forgiving] at split
    cases done with
    | nil =>
      simp only [List.nil_append, List.cons.injEq, Prod.mk.injEq] at split
      obtain ⟨⟨rfl, rfl⟩, rfl⟩ := split
      rw [runAll_cons forgiving, map_rendersOf ((render_loop board first).trans forgiving)]
      exact ⟨rfl, rfl⟩
    | cons head tail =>
      simp only [List.cons_append, List.cons.injEq] at split
      obtain ⟨rfl, split⟩ := split
      simp only [List.map_cons, List.cons_append, List.cons.injEq, true_and] at whole
      rw [List.map_cons, runAll_cons forgiving, runAll_cons forgiving]
      exact ih ((render_loop board first).trans forgiving) split whole

end Dashboard

end TreeTable

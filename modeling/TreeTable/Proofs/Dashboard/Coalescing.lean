import TreeTable.Proofs.Dashboard.Run

/-!
Coalescing: however many updates of a view are requested, at most one render of it waits, and a turn
renders it at most once. Everything but a render queues a render exactly when it raises the request
of the view; a render clears the request. What a direct render breaks of this is counted.
-/

namespace TreeTable.Dashboard

variable {board before middle after : Dashboard} {steady : Prop}

def Paired (before after : Dashboard) : Prop :=
  ∀ view, after.queue.count view + (before.isPending view).toNat =
    before.queue.count view + (after.isPending view).toNat

namespace Paired

theorem of_same (queue : after.queue = before.queue)
    (pending : ∀ view, after.isPending view = before.isPending view) : Paired before after := by
  intro view
  rw [queue, pending]

theorem refl (board : Dashboard) : Paired board board := of_same rfl fun _ => rfl

theorem trans (first : Paired before middle) (second : Paired middle after) :
    Paired before after := by
  intro view
  have := first view
  have := second view
  omega

theorem requestUpdate (board : Dashboard) (view : Handle) :
    Paired board (board.requestUpdate view) := by
  intro other
  rw [queue_requestUpdate, isPending_requestUpdate, List.count_append]
  by_cases same : other = view
  · subst same
    cases kept : board.views.value? other with
    | none => simp [isIdle, isPending, kept]
    | some state => cases rested : state.pending <;> simp [isIdle, isPending, kept, rested]
  · simp only [same, if_false]
    split <;> simp [Ne.symm same]

theorem requestAll (requests : List Handle) (board : Dashboard) :
    Paired board (requests.foldl Dashboard.requestUpdate board) := by
  induction requests generalizing board with
  | nil => exact refl board
  | cons view rest ih => exact (requestUpdate board view).trans (ih _)

theorem notify (board : Dashboard) (source : Handle) : Paired board (board.notify source) :=
  notify_induction (P := Paired board) source (refl board)
    (fun _ view paired => paired.trans (requestUpdate _ view))
    (fun _ _ _ paired => paired.trans (of_same rfl fun _ => rfl))
    (fun _ _ _ paired => paired.trans (of_same rfl fun _ => rfl))
    (fun _ _ paired => paired.trans (of_same rfl fun _ => rfl))

theorem setView {view : Handle} {old : View} (state : View)
    (stored : board.views.value? view = some old) (pending : state.pending = old.pending) :
    Paired board (board.setView view state) := by
  refine of_same rfl fun other => ?_
  by_cases same : other = view <;> simp [isPending, Dashboard.setView, same, stored, pending]

theorem leave (board : Dashboard) (view : Handle) (source : Option Handle) :
    Paired board (board.leave view source) := by
  cases source <;> exact of_same rfl fun _ => rfl

theorem listen (board : Dashboard) (view : Handle) (source : Option Handle) :
    Paired board (board.listen view source) := by
  cases source <;> exact of_same rfl fun _ => rfl

theorem attach (board : Dashboard) (view : Handle) (source : Option Handle) :
    Paired board (board.attach view source) := by
  unfold Dashboard.attach
  split
  · exact refl board
  · rename_i state stored
    rw [← views_leave board view state.source] at stored
    have moved := setView { state with source } stored rfl
    have requested := ((leave board view state.source).trans moved).trans (requestUpdate _ view)
    exact (requested.trans (listen _ view source)).trans (of_same rfl fun _ => rfl)

theorem setPresenter (board : Dashboard) (view presenter : Handle) :
    Paired board (Dashboard.setPresenter board view presenter) := by
  unfold Dashboard.setPresenter
  split
  · exact refl board
  · rename_i state stored
    exact (setView { state with presenter } stored rfl).trans (requestUpdate _ view)

end Paired

theorem Move.paired (move : Move steady before after) (kept : before.WellKept) :
    Paired before after := by
  cases move with
  | change source observed content known =>
    exact (Paired.of_same rfl fun _ => rfl).trans (Paired.notify _ source)
  | addView name presenter known =>
    refine .of_same rfl fun other => ?_
    by_cases same : other = before.views.next name
    · simp [isPending, setView, same, kept.views.value?_next name]
    · simp [isPending, setView, same]
  | attach view source known => exact Paired.attach before view source
  | present view presenter known => exact Paired.setPresenter before view presenter
  | request view => exact Paired.requestUpdate before view
  | _ => exact .of_same rfl fun _ => rfl

theorem Moves.paired (moves : Moves steady before after) (kept : before.WellKept) :
    Paired before after :=
  moves.induction kept (Paired.refl before)
    fun _ _ kept move paired => paired.trans (move.paired kept)

theorem render_paired (kept : board.WellKept) (view : Handle) :
    Paired (board.lower view) (board.render view).2 := by
  have requested := Paired.requestAll (board.requestsOf view) (board.lower view)
  intro other
  rw [queue_render kept, isPending_render kept]
  exact requested other

/-! ## Renders by the loop alone -/

/-- The renders that wait, in the rest of a batch or in the queue, are those that are requested. -/
def Balanced (rest : List Handle) (board : Dashboard) : Prop :=
  ∀ view, rest.count view + board.queue.count view = (board.isPending view).toNat

theorem Balanced.render (kept : board.WellKept) {view : Handle} {rest : List Handle}
    (balanced : Balanced (view :: rest) board) : Balanced rest (board.render view).2 := by
  intro other
  have paired := render_paired kept view other
  have waiting := balanced other
  rw [queue_lower, isPending_lower] at paired
  by_cases same : other = view
  · subst same
    have flag := Bool.toNat_le (board.isPending other)
    simp only [List.count_cons_self, bne_self_eq_false, Bool.and_false, Bool.toNat_false]
      at paired waiting
    omega
  · have different : (other != view) = true := by simpa using same
    rw [List.count_cons_of_ne (Ne.symm same)] at waiting
    rw [different, Bool.and_true] at paired
    omega

theorem Balanced.runAll (kept : board.WellKept) (forgiving : board.loop = .forgiving)
    {batch rest : List Handle} (balanced : Balanced (batch ++ rest) board) :
    Balanced rest (Dashboard.runAll batch board).2 := by
  induction batch generalizing board with
  | nil => exact balanced
  | cons view others ih =>
    rw [runAll_cons forgiving]
    exact ih (kept.render view) ((render_loop board view).trans forgiving) (balanced.render kept)

theorem Balanced.take (balanced : Balanced [] board) :
    Balanced board.queue { board with queue := [] } := by
  intro view
  have waiting := balanced view
  rw [List.count_nil, Nat.zero_add] at waiting
  exact waiting

theorem Balanced.turn (kept : board.WellKept) (forgiving : board.loop = .forgiving)
    (balanced : Balanced [] board) : Balanced [] board.turn.2 := by
  have taken := balanced.take
  -- the whole queue is the batch, and nothing of the turn is left after it
  rw [← List.append_nil board.queue] at taken
  exact taken.runAll (kept.withQueue []) forgiving

theorem Paired.balanced (paired : Paired before after) (balanced : Balanced [] before) :
    Balanced [] after := by
  intro view
  have := paired view
  have := balanced view
  simp only [List.count_nil] at *
  omega

theorem run_balanced {actions : List Action}
    (looped : ∀ action ∈ actions, ∀ name, action ≠ .render name) :
    (start.run actions).WellKept ∧ (start.run actions).loop = .forgiving ∧
      Balanced [] (start.run actions) := by
  refine run_induction actions wellKept_start rfl (fun _ => rfl) ?_
  intro board action after member kept forgiving done balanced
  cases done with
  | moves quiet moves => exact (Moves.paired moves kept).balanced balanced
  | turn => exact balanced.turn kept forgiving
  | missing name | render name => exact absurd rfl (looped _ member name)

theorem isPending_runAll (kept : board.WellKept) (forgiving : board.loop = .forgiving)
    {batch : List Handle} {view : Handle} (spared : view ∉ batch) (pending : board.isPending view) :
    (runAll batch board).2.isPending view := by
  induction batch generalizing board with
  | nil => exact pending
  | cons first rest ih =>
    simp only [List.mem_cons, not_or] at spared
    rw [runAll_cons forgiving]
    apply ih (kept.render first) ((render_loop board first).trans forgiving) spared.2
    have different : (view != first) = true := by simpa using spared.1
    rw [isPending_render kept, isPending_requestAll, isPending_lower, pending, different]
    rfl

theorem Balanced.turn_split (kept : board.WellKept) (forgiving : board.loop = .forgiving)
    (balanced : Balanced [] board) {done rest : List (Handle × Dashboard)} {rendered : Handle}
    {before : Dashboard} (split : board.turnRenders = done ++ (rendered, before) :: rest) :
    before.WellKept ∧ before.loop = .forgiving ∧
      Balanced (rendered :: rest.map Prod.fst) before ∧
      board.turn.2 = (Dashboard.runAll (rest.map Prod.fst) (before.render rendered).2).2 := by
  have emptied : WellKept { board with queue := [] } := kept.withQueue []
  have loops : Dashboard.loop { board with queue := [] } = .forgiving := forgiving
  obtain ⟨batch, begins, ends⟩ := rendersOf_split loops split
  have taken := balanced.take
  rw [batch] at taken
  refine ⟨?_, ?_, ?_, ends⟩
  · rw [begins]
    exact emptied.runAll _
  · rw [begins, runAll_loop]
    exact forgiving
  · rw [begins]
    exact taken.runAll emptied loops

theorem isPending_of_requested (kept : board.WellKept) {rendered view : Handle}
    (requested : view ∈ board.requestsOf rendered) : (board.render rendered).2.isPending view := by
  rw [isPending_render kept, isPending_requestAll, isSome_value?_lower,
    isSome_of_mem_requestsOf kept requested]
  simp [requested]

theorem Balanced.absorbed (kept : board.WellKept) {rendered view : Handle} {rest : List Handle}
    (balanced : Balanced (rendered :: rest) board) (requested : view ∈ board.requestsOf rendered)
    (coming : view ∈ rest) :
    board.isPending view ∧ (board.render rendered).2.isPending view ∧
      (board.render rendered).2.queue.count view = 0 := by
  have raised := isPending_of_requested kept requested
  have waiting := balanced view
  have waitingAfter := balanced.render kept view
  have comes : 0 < rest.count view := List.count_pos_iff.mpr coming
  have more : rest.count view ≤ (rendered :: rest).count view := List.count_le_count_cons
  rw [raised, Bool.toNat_true] at waitingAfter
  refine ⟨?_, raised, by omega⟩
  cases flag : board.isPending view with
  | true => rfl
  | false =>
    rw [flag, Bool.toNat_false] at waiting
    omega

theorem Balanced.carried (kept : board.WellKept) (forgiving : board.loop = .forgiving)
    {rendered view : Handle} {rest : List Handle} (balanced : Balanced (rendered :: rest) board)
    (requested : view ∈ board.requestsOf rendered) (spared : view ∉ rest) :
    (Dashboard.runAll rest (board.render rendered).2).2.isPending view ∧
      (Dashboard.runAll rest (board.render rendered).2).2.queue.count view = 1 := by
  have keptAfter := kept.render rendered
  have loopAfter := (render_loop board rendered).trans forgiving
  have balancedAfter := balanced.render kept
  rw [← List.append_nil rest] at balancedAfter
  have lasts := isPending_runAll keptAfter loopAfter spared (isPending_of_requested kept requested)
  have waiting := balancedAfter.runAll keptAfter loopAfter view
  rw [lasts, List.count_nil, Nat.zero_add] at waiting
  exact ⟨lasts, waiting⟩

/-- Where the loop alone renders, a render of a view waits exactly while one is requested, and a
turn renders exactly the views that are pending when it begins, each of them once. A request that is
made while one of them is rendered is absorbed by the render of its own view if that one is still to
come; otherwise its view is pending when the turn is over, and waits once for the next turn. -/
theorem one_render_per_turn {actions : List Action}
    (looped : ∀ action ∈ actions, ∀ name, action ≠ .render name) :
    let board := start.run actions
    (∀ view, board.queue.count view = (board.isPending view).toNat) ∧
      (∀ view, (board.turnRenders.map Prod.fst).count view = (board.isPending view).toNat) ∧
      ∀ done rendered before rest, board.turnRenders = done ++ (rendered, before) :: rest →
        board.turn.2 = (runAll (rest.map Prod.fst) (before.render rendered).2).2 ∧
        ∀ view ∈ before.requestsOf rendered,
          (view ∈ rest.map Prod.fst → before.isPending view ∧
            (before.render rendered).2.isPending view ∧
            (before.render rendered).2.queue.count view = 0) ∧
          (view ∉ rest.map Prod.fst → board.turn.2.isPending view ∧
            board.turn.2.queue.count view = 1) := by
  intro board
  obtain ⟨kept, forgiving, balanced⟩ := run_balanced looped
  have waiting : ∀ view, board.queue.count view = (board.isPending view).toNat := by
    intro view
    simpa using balanced view
  refine ⟨waiting, ?_, ?_⟩
  · intro view
    have loops : Dashboard.loop { board with queue := [] } = .forgiving := forgiving
    rw [turnRenders, map_rendersOf loops]
    exact waiting view
  · intro done rendered before rest split
    obtain ⟨keptBefore, loopBefore, balancedBefore, ends⟩ :=
      balanced.turn_split kept forgiving split
    refine ⟨ends, fun view requested => ?_⟩
    rw [ends]
    exact ⟨balancedBefore.absorbed keptBefore requested,
      balancedBefore.carried keptBefore loopBefore requested⟩

def askedMeanwhile : List Action :=
  [.defineSource "rows" (some (.matrix {})),
    .call "rows" (.ok (.setCell (.text "first") (.text "name") (.text "x"))),
    .defineSerializer "csv" (.text "csv") none
      (.ok { hook := some ⟨⟨fun _ => ["list", "table"]⟩, 1⟩ }) [],
    .defineView "table" "csv" (some "rows"), .defineView "list" "csv" (some "rows")]

theorem one_render_of_askedMeanwhile :
    let board := start.run askedMeanwhile
    ∃ before rest, board.turnRenders = (⟨"table", 0⟩, before) :: rest ∧
      before.requestsOf ⟨"table", 0⟩ = [⟨"list", 0⟩, ⟨"table", 0⟩] ∧
      (before.render ⟨"table", 0⟩).2.queue.count ⟨"list", 0⟩ = 0 ∧
      board.turn.2.queue.count ⟨"table", 0⟩ = 1 := by
  have looped : ∀ action ∈ askedMeanwhile, ∀ name, action ≠ .render name := by
    simp [askedMeanwhile]
  obtain ⟨_, _, meanwhile⟩ := one_render_per_turn looped
  obtain ⟨_, requested⟩ := meanwhile [] ⟨"table", 0⟩ _ _ rfl
  refine ⟨_, _, rfl, by decide +kernel, ?_, ?_⟩
  · have absorbed := (requested ⟨"list", 0⟩ (by decide +kernel)).1 (by decide +kernel)
    exact absorbed.2.2
  · have carried := (requested ⟨"table", 0⟩ (by decide +kernel)).2 (by decide +kernel)
    exact carried.2

/-! ## Direct renders -/

/-- How many of these renders of a view begin while none is requested. -/
def idleRenders (view : Handle) (renders : List (Handle × Dashboard)) : Nat :=
  renders.countP fun (rendered, before) => rendered == view && !before.isPending view

/-- How many renders of a view that the loop carries out in a run begin while none is requested. -/
def idleIn (view : Handle) : Dashboard → List Action → Nat
  | _, [] => 0
  | board, action :: rest =>
    (match action with
      | .turn => idleRenders view board.turnRenders
      | _ => 0) + idleIn view (board.perform action).2 rest

/-- How many direct renders of a view in a run begin while one is requested. -/
def interruptionsIn (view : Handle) : Dashboard → List Action → Nat
  | _, [] => 0
  | board, action :: rest =>
    (match action with
      | .render name =>
        if board.views.latest? name = some view then (board.isPending view).toNat else 0
      | _ => 0) + interruptionsIn view (board.perform action).2 rest

theorem count_queue_render (kept : board.WellKept) (rendered view : Handle) :
    (board.render rendered).2.queue.count view + (board.isPending view && view != rendered).toNat =
      board.queue.count view + ((board.render rendered).2.isPending view).toNat := by
  have paired := render_paired kept rendered view
  rwa [queue_lower, isPending_lower] at paired

theorem count_queue_runAll (kept : board.WellKept) (forgiving : board.loop = .forgiving)
    (view : Handle) (batch : List Handle) :
    (runAll batch board).2.queue.count view + idleRenders view (rendersOf batch board) +
        (board.isPending view).toNat =
      batch.count view + board.queue.count view +
        ((runAll batch board).2.isPending view).toNat := by
  induction batch generalizing board with
  | nil => simp [runAll, rendersOf, idleRenders]
  | cons rendered rest ih =>
    have first := count_queue_render kept rendered view
    have later := ih (kept.render rendered) ((render_loop board rendered).trans forgiving)
    rw [runAll_cons forgiving, rendersOf_cons forgiving]
    -- only a render of the view itself can clear its request, or begin without one
    by_cases same : rendered = view
    · subst same
      cases flag : board.isPending rendered <;>
        simp [idleRenders, flag] at first later ⊢ <;> omega
    · have different : (view != rendered) = true := by simpa using Ne.symm same
      simp [idleRenders, same, different] at first later ⊢
      omega

theorem count_queue_turn (kept : board.WellKept) (forgiving : board.loop = .forgiving)
    (view : Handle) :
    board.turn.2.queue.count view + idleRenders view board.turnRenders +
        (board.isPending view).toNat =
      board.queue.count view + (board.turn.2.isPending view).toNat :=
  count_queue_runAll (kept.withQueue []) forgiving view board.queue

theorem Performed.count_queue {action : Action} (done : Performed board action after)
    (kept : board.WellKept) (forgiving : board.loop = .forgiving) (view : Handle) :
    after.queue.count view + idleIn view board [action] + (board.isPending view).toNat =
      board.queue.count view + interruptionsIn view board [action] +
        (after.isPending view).toNat := by
  cases done with
  | moves quiet moves =>
    have paired := Moves.paired moves kept view
    cases action with
    | turn | render name => contradiction
    | _ => exact paired
  | turn => exact count_queue_turn kept forgiving view
  | missing name missing => simp [idleIn, interruptionsIn, missing]
  | render name rendered latest =>
    have counted := count_queue_render kept rendered view
    by_cases same : rendered = view
    · subst same
      simp [idleIn, interruptionsIn, latest] at counted ⊢
      omega
    · have different : (view != rendered) = true := by simpa using Ne.symm same
      simp [idleIn, interruptionsIn, latest, same, different] at counted ⊢
      omega

theorem count_queue_run (kept : board.WellKept) (forgiving : board.loop = .forgiving)
    (view : Handle) (actions : List Action) :
    (board.run actions).queue.count view + idleIn view board actions +
        (board.isPending view).toNat =
      board.queue.count view + interruptionsIn view board actions +
        ((board.run actions).isPending view).toNat := by
  induction actions generalizing board with
  | nil => simp [run, idleIn, interruptionsIn]
  | cons action rest ih =>
    have done := performed kept action
    have first := done.count_queue kept forgiving view
    have later := ih (done.wellKept kept) ((done.loop kept).trans forgiving)
    simp only [run, idleIn, interruptionsIn, Nat.add_zero] at first later ⊢
    omega

/-- With direct renders, a view has as many renders waiting as requests that stand, and one more for
each direct render that came while one was requested, less those that found none requested when the
loop came to them. A turn renders the view that often. So coalescing holds exactly while direct
renders of a requested view are made up for. -/
theorem waiting_renders_of_direct_renders (actions : List Action) (view : Handle) :
    let board := start.run actions
    board.queue.count view + idleIn view start actions =
        (board.isPending view).toNat + interruptionsIn view start actions ∧
      (board.turnRenders.map Prod.fst).count view = board.queue.count view ∧
      (board.queue.count view ≤ 1 ↔
        (board.isPending view).toNat + interruptionsIn view start actions ≤
          idleIn view start actions + 1) := by
  intro board
  have counted := count_queue_run wellKept_start rfl view actions
  have balance : (start.run actions).queue.count view + idleIn view start actions =
      ((start.run actions).isPending view).toNat + interruptionsIn view start actions := by
    have empty : start.queue.count view = 0 ∧ (start.isPending view).toNat = 0 := ⟨rfl, rfl⟩
    omega
  refine ⟨balance, ?_, by simp only [board]; omega⟩
  obtain ⟨_, forgiving, _⟩ := run_induction (P := fun _ => True) actions wellKept_start rfl trivial
    (fun _ _ _ _ _ _ _ _ => trivial)
  have loops : Dashboard.loop { board with queue := [] } = .forgiving := forgiving
  rw [turnRenders, map_rendersOf loops]

theorem two_renders_of_direct_render :
    let board := start.run [.defineSerializer "csv" (.text "csv") none (.ok {}) [],
      .defineView "table" "csv" none, .request "table", .render "table", .request "table"]
    board.queue = [⟨"table", 0⟩, ⟨"table", 0⟩] ∧
      board.turnRenders.map Prod.fst = [⟨"table", 0⟩, ⟨"table", 0⟩] := by
  decide +kernel

end TreeTable.Dashboard

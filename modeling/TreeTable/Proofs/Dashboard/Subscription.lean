import TreeTable.Proofs.Dashboard.Run

namespace TreeTable

def Call.isMutation : Call → Bool
  | .appendRow .. | .removeRow .. | .setValue .. | .setHeaders _ | .setCell .. | .clear => true
  | _ => false

namespace Dashboard

variable {board before middle after : Dashboard} {steady : Prop}

def subscriptions (board : Dashboard) (source view : Handle) : Nat :=
  match board.sources.value? source with
  | none => 0
  | some observed => observed.listeners.count (.view view)

/-- Every view listens exactly to the source that it is attached to. -/
def Subscribed (board : Dashboard) : Prop :=
  ∀ source view, board.subscriptions source view = if board.shows view = some source then 1 else 0

structure SameAudience (before after : Dashboard) : Prop where
  subscriptions : ∀ source view, after.subscriptions source view = before.subscriptions source view
  shows : ∀ view, after.shows view = before.shows view

theorem SameAudience.subscribed (same : SameAudience before after)
    (subscribed : before.Subscribed) : after.Subscribed := by
  intro source view
  rw [same.subscriptions, same.shows]
  exact subscribed source view

theorem SameAudience.refl (board : Dashboard) : SameAudience board board :=
  ⟨fun _ _ => rfl, fun _ => rfl⟩

theorem SameAudience.trans (first : SameAudience before middle)
    (second : SameAudience middle after) : SameAudience before after where
  subscriptions source view := (second.subscriptions source view).trans
    (first.subscriptions source view)
  shows view := (second.shows view).trans (first.shows view)

theorem subscriptions_subscribe (board : Dashboard) (source other view : Handle)
    (listener : Listener) :
    (board.subscribe source listener).subscriptions other view =
      board.subscriptions other view +
        if other = source ∧ listener = .view view ∧ (board.sources.value? source).isSome
        then 1 else 0 := by
  unfold subscriptions subscribe relisten
  simp only [Entries.value?_alter]
  by_cases same : other = source
  · subst same
    cases board.sources.value? other with
    | none => simp
    | some observed => by_cases listens : listener = .view view <;> simp [listens]
  · cases board.sources.value? other <;> simp [same]

theorem subscriptions_unsubscribe (board : Dashboard) (source other view : Handle)
    (listener : Listener) :
    (board.unsubscribe source listener).subscriptions other view =
      board.subscriptions other view - if other = source ∧ listener = .view view then 1 else 0 := by
  unfold subscriptions unsubscribe relisten
  simp only [Entries.value?_alter]
  by_cases same : other = source
  · subst same
    cases board.sources.value? other with
    | none => simp
    | some observed =>
      by_cases listens : listener = .view view <;> simp [Array.count_erase, listens]
  · cases board.sources.value? other <;> simp [same]

theorem sameAudience_requestUpdate (board : Dashboard) (view : Handle) :
    SameAudience board (board.requestUpdate view) := by
  constructor
  · intro source other
    obtain ⟨_, _, _, result⟩ := requestUpdate_frame board view
    rw [result]
    rfl
  · intro other
    unfold shows
    rw [value?_requestUpdate]
    cases board.views.value? other with
    | none => rfl
    | some state => by_cases same : other = view <;> simp [same]

theorem sameAudience_subscribe_bell (board : Dashboard) (source : Handle) (bell : String) :
    SameAudience board (board.subscribe source (.bell bell)) :=
  ⟨fun _ _ => by simp [subscriptions_subscribe], fun _ => rfl⟩

theorem sameAudience_unsubscribe_bell (board : Dashboard) (source : Handle) (bell : String) :
    SameAudience board (board.unsubscribe source (.bell bell)) :=
  ⟨fun _ _ => by simp [subscriptions_unsubscribe], fun _ => rfl⟩

theorem sameAudience_notify (board : Dashboard) (source : Handle) :
    SameAudience board (board.notify source) :=
  notify_induction (P := SameAudience board) source (.refl board)
    (fun _ view same => same.trans (sameAudience_requestUpdate _ view))
    (fun _ source bell same => same.trans (sameAudience_subscribe_bell _ source bell))
    (fun _ source bell same => same.trans (sameAudience_unsubscribe_bell _ source bell))
    (fun _ _ same => same.trans ⟨fun _ _ => rfl, fun _ => rfl⟩)

theorem sameAudience_setSource {source : Handle} {observed changed : Observed}
    (known : board.sources.value? source = some observed)
    (listeners : changed.listeners = observed.listeners) :
    SameAudience board (board.setSource source changed) := by
  refine ⟨?_, fun _ => rfl⟩
  intro other view
  by_cases same : other = source <;> simp [subscriptions, setSource, same, known, listeners]

theorem sameAudience_setView {view : Handle} {old : View} (state : View)
    (stored : board.views.value? view = some old) (source : state.source = old.source) :
    SameAudience board (board.setView view state) := by
  refine ⟨fun _ _ => rfl, ?_⟩
  intro other
  by_cases same : other = view <;> simp [shows, setView, same, stored, source]

theorem sameAudience_setPresenter (board : Dashboard) (view presenter : Handle) :
    SameAudience board (setPresenter board view presenter) := by
  unfold setPresenter
  split
  · exact .refl board
  · rename_i state stored
    have changed := sameAudience_setView { state with presenter } stored rfl
    exact changed.trans (sameAudience_requestUpdate _ view)

theorem subscriptions_leave (board : Dashboard) (view other handle : Handle)
    (source : Option Handle) :
    (board.leave view source).subscriptions handle other =
      board.subscriptions handle other - if source = some handle ∧ view = other then 1 else 0 := by
  cases source with
  | none => simp [leave]
  | some source => simp [leave, subscriptions_unsubscribe, eq_comm (a := handle)]

theorem subscriptions_listen (board : Dashboard) (view other handle : Handle)
    {source : Option Handle}
    (known : ∀ handle, source = some handle → (board.sources.value? handle).isSome) :
    (board.listen view source).subscriptions handle other =
      board.subscriptions handle other + if source = some handle ∧ view = other then 1 else 0 := by
  cases source with
  | none => simp [listen]
  | some source => simp [listen, subscriptions_subscribe, known source rfl, eq_comm (a := handle)]

theorem shows_listen (board : Dashboard) (view other : Handle) (source : Option Handle) :
    (board.listen view source).shows other = board.shows other := by
  cases source <;> rfl

theorem subscribed_attach (subscribed : board.Subscribed) (view : Handle) {source : Option Handle}
    (known : ∀ handle, source = some handle → (board.sources.value? handle).isSome) :
    (board.attach view source).Subscribed := by
  unfold attach
  cases stored : board.views.value? view with
  | none => exact subscribed
  | some state =>
    let left := board.leave view state.source
    let moved := left.setView view { state with source }
    let requested := moved.requestUpdate view
    have same := sameAudience_requestUpdate moved view
    have views : left.views = board.views := views_leave board view state.source
    have sources : ∀ handle, (requested.sources.value? handle).isSome =
        (board.sources.value? handle).isSome := by
      intro handle
      obtain ⟨_, _, _, framed⟩ := requestUpdate_frame moved view
      simp only [requested, framed, moved, left, setView]
      cases state.source <;> simp [leave, unsubscribe, relisten, Entries.value?_alter]
    intro handle other
    have heard : (requested.listen view source).subscriptions handle other =
        left.subscriptions handle other + if source = some handle ∧ view = other then 1 else 0 := by
      have known : ∀ handle, source = some handle → (requested.sources.value? handle).isSome := by
        intro handle attached
        rw [sources]
        exact known handle attached
      rw [subscriptions_listen requested view other handle known, same.subscriptions]
      rfl
    have shown : (requested.listen view source).shows other =
        if other = view then source else board.shows other := by
      rw [shows_listen, same.shows]
      by_cases same : other = view <;> simp [shows, moved, setView, same, views]
    -- the view has left what it showed before, and every other view listens as it did
    have before := subscribed handle other
    have showed : board.shows view = state.source := by simp [shows, stored]
    have quiet := subscriptions_leave board view other handle state.source
    have result : (requested.listen view source).subscriptions handle other =
        if (requested.listen view source).shows other = some handle then 1 else 0 := by
      rw [heard, shown, quiet, before]
      by_cases same : other = view
      · subst same
        simp [showed]
      · simp [same, Ne.symm same]
    exact result

theorem Move.subscribed (move : Move steady before after) (kept : before.WellKept)
    (subscribed : before.Subscribed) : after.Subscribed := by
  cases move with
  | addSource name content =>
    have same : SameAudience before (before.setSource (before.sources.next name) { content }) := by
      refine ⟨fun other view => ?_, fun _ => rfl⟩
      by_cases same : other = before.sources.next name
      · simp [Dashboard.subscriptions, setSource, same, kept.sources.value?_next name]
      · simp [Dashboard.subscriptions, setSource, same]
    exact same.subscribed subscribed
  | setContent _ source observed content known =>
    have changed : SameAudience before (before.setSource source { observed with content }) :=
      sameAudience_setSource known rfl
    exact changed.subscribed subscribed
  | setScripts source observed scripts known =>
    have changed : SameAudience before (before.setSource source { observed with scripts }) :=
      sameAudience_setSource known rfl
    exact changed.subscribed subscribed
  | subscribe source bell =>
    exact (sameAudience_subscribe_bell before source bell).subscribed subscribed
  | unsubscribe source bell =>
    exact (sameAudience_unsubscribe_bell before source bell).subscribed subscribed
  | change source observed content known =>
    have changed : SameAudience before (before.setSource source { observed with content }) :=
      sameAudience_setSource known rfl
    exact (changed.trans (sameAudience_notify _ source)).subscribed subscribed
  | addView name presenter known =>
    have same : SameAudience before (before.setView (before.views.next name) { presenter }) := by
      refine ⟨fun _ _ => rfl, fun other => ?_⟩
      by_cases same : other = before.views.next name
      · simp [Dashboard.shows, setView, same, kept.views.value?_next name]
      · simp [Dashboard.shows, setView, same]
    exact same.subscribed subscribed
  | attach view source known => exact subscribed_attach subscribed view known
  | present view presenter known =>
    exact (sameAudience_setPresenter before view presenter).subscribed subscribed
  | request view => exact (sameAudience_requestUpdate before view).subscribed subscribed
  | _ => exact fun source view => subscribed source view

theorem sameAudience_render (kept : board.WellKept) (view : Handle) :
    SameAudience board (board.render view).2 := by
  cases stored : board.views.value? view with
  | none =>
    rw [render_of_missing stored]
    exact .refl board
  | some state =>
    obtain ⟨presenter, chosen⟩ := Option.isSome_iff_exists.mp (kept.presented view state stored)
    constructor
    · intro source other
      obtain ⟨_, _, _, _, rendered⟩ := render_frame board view
      rw [rendered]
      rfl
    · intro other
      unfold shows
      rw [value?_render stored chosen]
      by_cases same : other = view <;> cases board.views.value? other <;> simp [same]

theorem sameAudience_runAll (kept : board.WellKept) (batch : List Handle) :
    SameAudience board (runAll batch board).2 := by
  induction batch generalizing board with
  | nil => exact .refl board
  | cons view rest ih =>
    have rendered := sameAudience_render kept view
    have keptAfter := kept.render view
    unfold runAll
    split
    · rename_i result
      rw [result] at rendered keptAfter
      exact rendered.trans (ih keptAfter)
    · rename_i result
      rw [result] at rendered keptAfter
      -- whether the rest of the batch goes on or not
      split
      · exact rendered.trans (ih keptAfter)
      · exact rendered

theorem Performed.subscribed {action : Action} (done : Performed board action after)
    (kept : board.WellKept) (subscribed : board.Subscribed) : after.Subscribed := by
  cases done with
  | moves _ moves =>
    exact moves.induction kept subscribed fun _ _ kept move => move.subscribed kept
  | turn =>
    have same := sameAudience_runAll (kept.withQueue []) board.queue
    exact same.subscribed subscribed
  | missing => exact subscribed
  | render name view => exact (sameAudience_render kept view).subscribed subscribed

theorem views_ring (source : Handle) (board : Dashboard) (bell : String) :
    (tell source board (.bell bell)).views = board.views := by
  have follows : ∀ (script : List (Bool × String)) (before : Dashboard),
      (script.foldl (follow source) before).views = before.views := by
    intro script
    induction script with
    | nil => exact fun _ => rfl
    | cons line rest ih =>
      intro before
      rw [List.foldl_cons, ih]
      unfold follow
      split <;> rfl
  exact follows _ _

theorem isPending_tellAll (source : Handle) (listeners : List Listener) (board : Dashboard)
    (view : Handle) :
    (listeners.foldl (tell source) board).isPending view =
      (board.isPending view ||
        decide (.view view ∈ listeners) && (board.views.value? view).isSome) := by
  induction listeners generalizing board with
  | nil => simp
  | cons listener rest ih =>
    rw [List.foldl_cons, ih]
    cases listener with
    | view told =>
      have known : ((board.requestUpdate told).views.value? view).isSome =
          (board.views.value? view).isSome := by
        rw [value?_requestUpdate, Option.isSome_map]
      simp only [tell, isPending_requestUpdate, known]
      by_cases same : view = told
      · subst same
        cases stored : board.views.value? view <;> simp [isPending, stored]
      · simp [same]
    | bell bell =>
      have views := views_ring source board bell
      simp [isPending, views]

theorem Subscribed.isPending_change (subscribed : board.Subscribed) {source : Handle}
    {observed : Observed} (known : board.sources.value? source = some observed)
    (content : Option Content) (view : Handle) :
    ((board.setSource source { observed with content }).notify source).isPending view =
      (board.isPending view || decide (board.shows view = some source)) := by
  have stored : (board.setSource source { observed with content }).sources.value? source =
      some { observed with content } := by
    simp [setSource]
  have listens := subscribed source view
  simp only [subscriptions, known] at listens
  rw [notify_eq stored, isPending_tellAll]
  have same : (board.setSource source { observed with content }).isPending view =
      board.isPending view := rfl
  rw [same]
  by_cases shown : board.shows view = some source
  · have present : Listener.view view ∈ observed.listeners := by
      rw [if_pos shown] at listens
      rw [← Array.count_pos_iff]
      omega
    have exists_view : (board.views.value? view).isSome := by
      unfold shows at shown
      cases kept : board.views.value? view with
      | none => simp [kept] at shown
      | some state => rfl
    simp [setSource, shown, present, exists_view]
  · have absent : Listener.view view ∉ observed.listeners := by
      rw [if_neg shown, Array.count_eq_zero] at listens
      exact listens
    simp [shown, absent]

theorem latest?_of_findSource {name : String} {source : Handle} {observed : Observed}
    {content : Content} (found : board.findSource name = .ok (source, observed, content)) :
    board.sources.latest? name = some source := by
  simp only [findSource, bind_eq_ok] at found
  obtain ⟨⟨handle, object⟩, kept, rest⟩ := found
  cases held : object.content with
  | none => simp [held] at rest
  | some content =>
    simp only [held, pure_eq_ok] at rest
    cases rest
    exact latest?_of_find kept

theorem name_of_findSource {name : String} {source : Handle} {observed : Observed}
    {content : Content} (found : board.findSource name = .ok (source, observed, content)) :
    source.name = name :=
  Store.name_of_latest? (latest?_of_findSource found)

theorem changed_of_isMutation {content : Content} {call : Call} {answer : Reply}
    {changed : Option Content} (mutates : call.isMutation)
    (performed : content.perform call = .ok (answer, changed)) : ∃ next, changed = some next := by
  cases content <;> cases call <;>
    simp only [Call.isMutation, Bool.false_eq_true] at mutates <;>
    simp only [Content.perform, bind_eq_ok, pure_eq_ok, Except.ok.injEq, Prod.mk.injEq,
      reduceCtorEq] at performed <;>
    grind

theorem call_of_isMutation {name : String} {call : Call} {reply : Reply}
    (mutates : call.isMutation) (done : board.call name (.ok call) = .ok (reply, after)) :
    ∃ source observed content, board.sources.latest? name = some source ∧
      board.sources.value? source = some observed ∧
      after = (board.setSource source { observed with content }).notify source := by
  simp only [Dashboard.call, bind_eq_ok, pure_eq_ok, Prod.mk.injEq] at done
  obtain ⟨⟨source, observed, content⟩, found, _, given, ⟨answer, changed⟩, performed, _, done⟩ :=
    done
  cases given
  obtain ⟨next, rfl⟩ := changed_of_isMutation mutates performed
  refine ⟨source, observed, some next, latest?_of_findSource found, (findSource_eq_ok found).1, ?_⟩
  cases call with
  | subscribe | unsubscribe => contradiction
  | _ => exact done.symm

/-- However views are made, attached, changed and rendered, each listens exactly once to the source
that it is attached to and to no other. So a change of a source requests a render of every view
that is attached to it, and of no other. -/
theorem listens_where_attached (loop : Loop) (actions : List Action) :
    let board := Dashboard.run { loop } actions
    (∀ source view,
      board.subscriptions source view = if board.shows view = some source then 1 else 0) ∧
    ∀ name call reply after, call.isMutation →
      board.perform (.call name (.ok call)) = (.ok reply, after) →
      ∃ source, board.sources.latest? name = some source ∧ ∀ view,
        after.isPending view = (board.isPending view || decide (board.shows view = some source)) := by
  intro board
  have nobody : Dashboard.Subscribed { loop } := fun _ _ => rfl
  obtain ⟨_, subscribed⟩ := run_keeps actions (wellKept_empty loop) nobody
    fun _ _ _ _ kept done subscribed => done.subscribed kept subscribed
  refine ⟨subscribed, ?_⟩
  intro name call reply after mutates performed
  have done : board.call name (.ok call) = .ok (reply, after) := by
    unfold perform at performed
    cases called : board.call name (.ok call) with
    | ok result => simpa [attempt, called, Prod.ext_iff] using performed
    | error failure => simp [attempt, called] at performed
  obtain ⟨source, observed, content, latest, known, rfl⟩ := call_of_isMutation mutates done
  exact ⟨source, latest, subscribed.isPending_change known content⟩

def reattached : List Action :=
  [.defineSource "rows" (some (.matrix {})), .defineSource "columns" (some (.matrix {})),
    .defineSerializer "csv" (.text "csv") none (.ok {}) [],
    .defineView "table" "csv" (some "rows"), .defineView "list" "csv" (some "rows"),
    .attach "table" (some "rows"), .attach "list" (some "columns"), .turn]

theorem listens_when_reattached :
    let board := Dashboard.run { loop := .halting } reattached
    board.subscriptions ⟨"rows", 0⟩ ⟨"table", 0⟩ = 1 ∧
      board.subscriptions ⟨"rows", 0⟩ ⟨"list", 0⟩ = 0 ∧
      ∃ reply after, board.perform
          (.call "rows" (.ok (.setCell (.text "first") (.text "name") (.text "x")))) =
            (.ok reply, after) ∧
        after.isPending ⟨"table", 0⟩ = true ∧ after.isPending ⟨"list", 0⟩ = false := by
  intro board
  obtain ⟨subscribed, changes⟩ := listens_where_attached .halting reattached
  have table : board.shows ⟨"table", 0⟩ = some ⟨"rows", 0⟩ := by decide +kernel
  have list : board.shows ⟨"list", 0⟩ = some ⟨"columns", 0⟩ := by decide +kernel
  refine ⟨?_, ?_, .done, _, rfl, ?_, ?_⟩
  · rw [subscribed, if_pos table]
  · rw [subscribed, list]
    rfl
  all_goals
    obtain ⟨source, latest, told⟩ := changes "rows"
      (.setCell (.text "first") (.text "name") (.text "x")) _ _ rfl rfl
    have named : some source = some ⟨"rows", 0⟩ := latest.symm.trans (by decide +kernel)
    rw [told, Option.some.inj named]
  · rw [table]
    simp
  · rw [list]
    decide +kernel

end Dashboard

end TreeTable

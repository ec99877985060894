import TreeTable.Proofs.Dashboard.Sight.Change

namespace TreeTable

/-- Nothing in a run leads out of the circle: the sources of the origin are shown inside only,
delegates inside request updates inside only, those outside do not request updates of the origin,
and a serializer that is used on both sides requests none at all. -/
structure Veil.Covers (veil : Veil) (actions : List Action) : Prop where
  sources : ∀ source ∈ sourcesOf actions veil.origin, veil.sources source = true
  shown : ∀ view, ∀ source ∈ sourcesOf actions view, veil.sources source = true →
    veil.circle view = true
  serializers : ∀ view, veil.circle view = true → ∀ serializer ∈ serializersOf actions view,
    veil.serializers serializer = true
  requested : ∀ view, veil.circle view = true → ∀ other ∈ requestedBy actions view,
    veil.circle other = true
  unasked : ∀ view, veil.circle view = false → veil.origin ∉ requestedBy actions view
  unshared : ∀ view, veil.circle view = false → ∀ serializer ∈ serializersOf actions view,
    veil.serializers serializer = true → wishesOf actions serializer = []

theorem Veil.Covers.visible {veil : Veil} {actions : List Action} (covers : veil.Covers actions)
    {view source : String} (outside : veil.circle view = false)
    (shown : source ∈ sourcesOf actions view) : veil.sources source = false := by
  cases hidden : veil.sources source with
  | false => rfl
  | true =>
    rw [covers.shown view source shown hidden] at outside
    cases outside

namespace Dashboard

structure Orderly (actions : List Action) (board : Dashboard) : Prop where
  kept : board.WellKept
  tied : TiedAs actions board
  subscribed : board.Subscribed
  forgiving : board.loop = .forgiving

variable {actions : List Action} {board left right : Dashboard}

namespace Orderly

theorem start : Orderly actions start where
  kept := wellKept_start
  tied := tiedAs_empty .forgiving
  subscribed := fun _ _ => rfl
  forgiving := rfl

theorem perform (orderly : Orderly actions board) {action : Action} (among : action ∈ actions) :
    Orderly actions (board.perform action).2 := by
  have done := performed orderly.kept action
  exact ⟨done.wellKept orderly.kept, orderly.tied.perform orderly.kept among,
    done.subscribed orderly.kept orderly.subscribed,
    (done.loop orderly.kept).trans orderly.forgiving⟩

theorem withQueue (orderly : Orderly actions board) (queue : List Handle) :
    Orderly actions { board with queue } where
  kept := orderly.kept.withQueue queue
  tied := orderly.tied.of_same (fun _ => rfl) rfl
  subscribed := orderly.subscribed
  forgiving := orderly.forgiving

theorem render (orderly : Orderly actions board) (view : Handle) :
    Orderly actions (board.render view).2 where
  kept := orderly.kept.render view
  tied := orderly.tied.render orderly.kept view
  subscribed := (sameAudience_render orderly.kept view).subscribed orderly.subscribed
  forgiving := (render_loop board view).trans orderly.forgiving

theorem allWishes_subset (orderly : Orderly actions board) {view : Handle} {state : View}
    {presenter : Presenter} (stored : board.views.value? view = some state)
    (chosen : board.presenters.value? state.presenter = some presenter) :
    presenter.allWishes ⊆ requestedBy actions view.name := by
  intro name wished
  exact List.mem_flatMap.mpr ⟨state.presenter.name, orderly.tied.presenter_mem stored,
    orderly.tied.wished _ _ chosen wished⟩

theorem attached_of_listens (orderly : Orderly actions board) {source view : Handle}
    {observed : Observed} (known : board.sources.value? source = some observed)
    (listens : .view view ∈ observed.listeners) : source.name ∈ sourcesOf actions view.name := by
  have counted := orderly.subscribed source view
  have once : 0 < observed.listeners.count (.view view) := Array.count_pos_iff.mpr listens
  simp only [subscriptions, known] at counted
  split at counted
  · rename_i shown
    obtain ⟨state, stored, its⟩ := Option.bind_eq_some_iff.mp shown
    exact orderly.tied.source_mem stored its
  · omega

end Orderly

theorem refusal_of_allWishes_eq_nil (board : Dashboard) {presenter : Presenter}
    (modest : presenter.allWishes = []) : board.refusal presenter = fun _ => none := by
  funext number
  unfold refusal
  cases hooked : presenter.hook with
  | none => rfl
  | some hook =>
    have never : hook.allWishes = [] := by simpa [Presenter.allWishes, hooked] using modest
    have nobody := List.subset_nil.mp (never ▸ hook.wishesAt_subset number)
    simp [nobody]

theorem wanted_of_allWishes_eq_nil (board : Dashboard) {presenter : Presenter}
    (modest : presenter.allWishes = []) (asked : Nat) : board.wanted presenter asked = [] := by
  unfold wanted
  cases hooked : presenter.hook with
  | none => rfl
  | some hook =>
    have never : hook.allWishes = [] := by simpa [Presenter.allWishes, hooked] using modest
    have nobody := List.subset_nil.mp (never ▸ hook.wishesFor_subset asked)
    simp [nobody, reach]

theorem reach_congr {names : List String}
    (same : ∀ name ∈ names, left.views.latest? name = right.views.latest? name) :
    left.reach names = right.reach names := by
  induction names with
  | nil => rfl
  | cons name rest ih =>
    unfold reach
    rw [same name List.mem_cons_self,
      ih fun other later => same other (List.mem_cons_of_mem _ later)]

theorem name_of_mem_reach {names : List String} {view : Handle} (among : view ∈ board.reach names) :
    view.name ∈ names := by
  induction names with
  | nil => cases among
  | cons name rest ih =>
    unfold reach at among
    split at among
    · cases among
    · rename_i found latest
      rcases List.mem_cons.mp among with same | later
      · rw [same, Store.name_of_latest? latest]
        exact List.mem_cons_self
      · exact List.mem_cons_of_mem _ (ih later)

theorem name_of_mem_wanted {presenter : Presenter} {asked : Nat} {view : Handle}
    (among : view ∈ board.wanted presenter asked) : view.name ∈ presenter.allWishes := by
  unfold wanted at among
  cases hooked : presenter.hook with
  | none => simp [hooked] at among
  | some hook =>
    simp only [hooked] at among
    simpa [Presenter.allWishes, hooked] using hook.wishesFor_subset asked (name_of_mem_reach among)

section Congr

variable {presenter : Presenter}
  (same : ∀ name ∈ presenter.allWishes, left.views.latest? name = right.views.latest? name)

include same

theorem refusal_congr : left.refusal presenter = right.refusal presenter := by
  funext number
  unfold refusal
  cases hooked : presenter.hook with
  | none => rfl
  | some hook =>
    have wished : hook.wishesAt number ⊆ presenter.allWishes := by
      simpa [Presenter.allWishes, hooked] using hook.wishesAt_subset number
    have found : (hook.wishesAt number).find? (fun name => (left.views.latest? name).isNone) =
        (hook.wishesAt number).find? fun name => (right.views.latest? name).isNone := by
      rw [← List.head?_filter, ← List.head?_filter]
      exact congrArg List.head? <| List.filter_congr fun name among => by
        rw [same name (wished among)]
    simp only [Option.bind_eq_bind, Option.bind_some, found]

theorem wanted_congr (asked : Nat) :
    left.wanted presenter asked = right.wanted presenter asked := by
  unfold wanted
  cases hooked : presenter.hook with
  | none => rfl
  | some hook =>
    have wished : hook.wishesFor asked ⊆ presenter.allWishes := by
      simpa [Presenter.allWishes, hooked] using hook.wishesFor_subset asked
    exact reach_congr fun name among => same name (wished among)

end Congr

end Dashboard

namespace Veil

open Dashboard

variable {actions : List Action} {veil : Veil} {board left right : Dashboard}

theorem latest?_view (same : veil.sight left = veil.sight right) (kept : left.WellKept)
    (kept' : right.WellKept) {name : String} (known : name ≠ veil.origin) :
    left.views.latest? name = right.views.latest? name := by
  have editions := kept.views.editions_congr kept'.views name fun edition =>
    isSome_view same known
  simp only [Store.latest?, editions]

theorem sight_lower_inside (board : Dashboard) {view : Handle}
    (inside : veil.circle view.name = true) :
    veil.sight (board.lower view) = veil.sight board := by
  unfold lower
  split
  · rfl
  · rename_i state stored
    exact sight_setView_inside inside (.inr (by simp [stored])) _

theorem sight_lower (same : veil.sight left = veil.sight right) (view : Handle) :
    veil.sight (left.lower view) = veil.sight (right.lower view) := by
  cases inside : veil.circle view.name with
  | true => rw [sight_lower_inside left inside, sight_lower_inside right inside, same]
  | false =>
    unfold lower
    rw [value?_view same inside]
    cases right.views.value? view with
    | none => exact same
    | some state =>
      dsimp only
      rw [sight_setView, sight_setView, same]

theorem sight_publish_inside (board : Dashboard) {view : Handle}
    (inside : veil.circle view.name = true) (title : String) (outcome : Except Failure Value) :
    veil.sight (board.publish view title outcome).2 = veil.sight board := by
  unfold publish
  split
  · rfl
  · rename_i state stored
    cases outcome with
    | ok text =>
      let shown : View := { state with text, renders := state.renders + 1 }
      have unseen : veil.sight (board.setView view shown) = veil.sight board :=
        sight_setView_inside inside (.inr (by simp [stored])) shown
      dsimp only
      split <;> exact unseen
    | error failure =>
      dsimp only
      split <;> rfl

theorem sight_publish (same : veil.sight left = veil.sight right) (view : Handle) (title : String)
    (outcome : Except Failure Value) :
    veil.sight (left.publish view title outcome).2 =
      veil.sight (right.publish view title outcome).2 := by
  cases inside : veil.circle view.name with
  | true => rw [sight_publish_inside left inside, sight_publish_inside right inside, same]
  | false =>
    unfold publish
    rw [value?_view same inside]
    cases right.views.value? view with
    | none => exact same
    | some state =>
      cases outcome with
      | ok text =>
        have shown : ∀ shown : View, veil.sight (left.setView view shown) =
            veil.sight (right.setView view shown) := by
          intro shown
          rw [sight_setView, sight_setView, same]
        dsimp only
        cases text.elements? <;> exact shown _
      | error failure =>
        dsimp only
        split <;> exact same

theorem sight_render_eq {view : Handle} {state : View} {presenter : Presenter}
    (stored : board.views.value? view = some state)
    (chosen : board.presenters.value? state.presenter = some presenter) :
    let rendering := (board.lower view).draw presenter state.source
    veil.sight (board.render view).2 = veil.sight
      (((board.lower view).settleHook state.presenter presenter rendering.asked).publish view
        presenter.format.title rendering.outcome).2 := by
  intro rendering
  unfold Dashboard.render
  rw [stored]
  dsimp only
  rw [presenters_lower, chosen]
  dsimp only
  apply sight_publish
  split <;> rfl

theorem sight_spend_hidden {handle : Handle} {presenter : Presenter}
    (hidden : veil.serializers handle.name = true)
    (chosen : board.presenters.value? handle = some presenter) (asked : Nat) :
    veil.sight { board with
      presenters := board.presenters.put handle (presenter.spend asked) } = veil.sight board := by
  rw [sight_putPresenter]
  refine Sight.ext rfl rfl ?_ rfl rfl rfl
  funext other
  by_cases same : other = handle
  · subst same
    simp [sight, chosen, Veil.presenter, hidden, Presenter.spend]
  · simp [same]

theorem sight_render_inside (covers : veil.Covers actions) (orderly : Orderly actions board)
    {view : Handle} (inside : veil.circle view.name = true) :
    veil.sight (board.render view).2 = veil.sight board := by
  cases stored : board.views.value? view with
  | none => rw [render_of_missing stored]
  | some state =>
    obtain ⟨presenter, chosen⟩ :=
      Option.isSome_iff_exists.mp (orderly.kept.presented view state stored)
    have hidden := covers.serializers view.name inside _ (orderly.tied.presenter_mem stored)
    have lowered : (board.lower view).presenters.value? state.presenter = some presenter := by
      rw [presenters_lower, chosen]
    rw [sight_render_eq stored chosen, sight_publish_inside _ inside]
    unfold settleHook
    rw [sight_requestAll_inside, sight_spend_hidden hidden lowered, sight_lower_inside board inside]
    intro other wanted
    exact covers.requested view.name inside _
      (orderly.allWishes_subset stored chosen (name_of_mem_wanted wanted))

theorem presenter_eq_or {handle : Handle} {presenter presenter' : Presenter}
    (same : veil.presenter handle presenter = veil.presenter handle presenter') :
    presenter' = presenter ∨ veil.serializers handle.name = true ∧
      presenter' = { presenter with hook := presenter'.hook } := by
  unfold Veil.presenter at same
  cases shared : veil.serializers handle.name with
  | false =>
    simp only [shared, Bool.false_eq_true, if_false] at same
    exact .inl same.symm
  | true =>
    simp only [shared, if_true, Presenter.mk.injEq] at same
    obtain ⟨format, config, delegate, hook⟩ := presenter
    obtain ⟨format', config', delegate', hook'⟩ := presenter'
    simp_all

/-- Presenters that render the same and do the same besides, each in a dashboard of its own. -/
structure Alike (left right : Dashboard) (presenter presenter' : Presenter) : Prop where
  inner : presenter' = { presenter with hook := presenter'.hook }
  refusal : left.refusal presenter = right.refusal presenter'
  wanted : ∀ asked, left.wanted presenter asked = right.wanted presenter' asked

theorem contentOf_congr (same : veil.sight left = veil.sight right) {source : Option Handle}
    (visible : ∀ handle, source = some handle → veil.sources handle.name = false) :
    left.contentOf source = right.contentOf source := by
  cases source with
  | none => rfl
  | some handle =>
    have contents := congrArg (Option.map Observed.content) (value?_source same (visible _ rfl))
    simp only [Option.map_map] at contents
    have content : ∀ board : Dashboard, board.contentOf (some handle) =
        ((board.sources.value? handle).map Observed.content).join := by
      intro board
      cases stored : board.sources.value? handle <;> simp [contentOf, stored]
    rw [content, content]
    exact congrArg Option.join contents

theorem draw_congr {presenter presenter' : Presenter}
    (alike : Alike left right presenter presenter') (configs : left.configs = right.configs)
    {source : Option Handle} (content : left.contentOf source = right.contentOf source) :
    left.draw presenter source = right.draw presenter' source := by
  have serializer : left.serializerOf presenter = right.serializerOf presenter' := by
    rw [alike.inner]
    unfold serializerOf configOf
    rw [configs]
  unfold draw
  rw [serializer, content, alike.refusal]

theorem sight_settleHook (same : veil.sight left = veil.sight right)
    {presenter presenter' : Presenter} (alike : Alike left right presenter presenter')
    {handle : Handle}
    (looks : veil.presenter handle presenter = veil.presenter handle presenter') (asked : Nat) :
    veil.sight (left.settleHook handle presenter asked) =
      veil.sight (right.settleHook handle presenter' asked) := by
  have spent : veil.presenter handle (presenter.spend asked) =
      veil.presenter handle (presenter'.spend asked) := by
    rcases presenter_eq_or looks with rfl | ⟨shared, other⟩
    · rfl
    · rw [other]
      simp [Veil.presenter, shared, Presenter.spend]
  unfold settleHook
  rw [alike.wanted]
  apply sight_requestAll
  rw [sight_putPresenter, sight_putPresenter, same, spent]

section Outside

variable (covers : veil.Covers actions) (same : veil.sight left = veil.sight right)
  (orderly : Orderly actions left) (orderly' : Orderly actions right)
  {view : Handle} (outside : veil.circle view.name = false) {state : View}
  (stored : left.views.value? view = some state) {presenter presenter' : Presenter}
  (chosen : left.presenters.value? state.presenter = some presenter)
  (chosen' : right.presenters.value? state.presenter = some presenter')

include covers same orderly orderly' outside stored chosen chosen'

theorem alike_lower : veil.presenter state.presenter presenter =
      veil.presenter state.presenter presenter' ∧
    Alike (left.lower view) (right.lower view) presenter presenter' := by
  have looks : veil.presenter state.presenter presenter =
      veil.presenter state.presenter presenter' := by
    have seen := congrFun (congrArg Sight.presenters same) state.presenter
    simpa [sight, chosen, chosen'] using seen
  refine ⟨looks, ?_⟩
  rcases presenter_eq_or looks with rfl | ⟨shared, inner⟩
  · have latest : ∀ name ∈ presenter'.allWishes, (left.lower view).views.latest? name =
        (right.lower view).views.latest? name := by
      intro name wished
      refine latest?_view (sight_lower same view) (orderly.kept.lower view)
        (orderly'.kept.lower view) ?_
      rintro rfl
      exact covers.unasked view.name outside (orderly.allWishes_subset stored chosen wished)
    exact ⟨rfl, refusal_congr latest, wanted_congr latest⟩
  · -- the delegates are not equally far, but then the serializer is used on both sides
    have given := orderly.tied.presenter_mem stored
    have never := covers.unshared view.name outside _ given shared
    have modest := List.subset_nil.mp (never ▸ orderly.tied.wished _ _ chosen)
    have modest' := List.subset_nil.mp (never ▸ orderly'.tied.wished _ _ chosen')
    refine ⟨inner, ?_, fun asked => ?_⟩
    · rw [refusal_of_allWishes_eq_nil _ modest, refusal_of_allWishes_eq_nil _ modest']
    · rw [wanted_of_allWishes_eq_nil _ modest, wanted_of_allWishes_eq_nil _ modest']

theorem sight_render_outside :
    veil.sight (left.render view).2 = veil.sight (right.render view).2 := by
  obtain ⟨looks, alike⟩ := alike_lower covers same orderly orderly' outside stored chosen chosen'
  have stored' := (value?_view same outside).symm.trans stored
  have lowered := sight_lower same view
  have visible : ∀ handle, state.source = some handle → veil.sources handle.name = false :=
    fun handle shown => covers.visible outside (orderly.tied.source_mem stored shown)
  have drawn := draw_congr alike (congrArg Sight.configs lowered) (contentOf_congr lowered visible)
  rw [sight_render_eq stored chosen, sight_render_eq stored' chosen', drawn, alike.inner]
  exact sight_publish (alike.inner ▸ sight_settleHook lowered alike looks _) view _ _

end Outside

theorem sight_render (covers : veil.Covers actions) (same : veil.sight left = veil.sight right)
    (orderly : Orderly actions left) (orderly' : Orderly actions right) (view : Handle) :
    veil.sight (left.render view).2 = veil.sight (right.render view).2 := by
  cases inside : veil.circle view.name with
  | true =>
    rw [sight_render_inside covers orderly inside, sight_render_inside covers orderly' inside, same]
  | false =>
    cases stored : left.views.value? view with
    | none =>
      have stored' := (value?_view same inside).symm.trans stored
      rw [render_of_missing stored, render_of_missing stored', same]
    | some state =>
      have stored' := (value?_view same inside).symm.trans stored
      obtain ⟨presenter, chosen⟩ :=
        Option.isSome_iff_exists.mp (orderly.kept.presented view state stored)
      obtain ⟨presenter', chosen'⟩ :=
        Option.isSome_iff_exists.mp (orderly'.kept.presented view state stored')
      exact sight_render_outside covers same orderly orderly' inside stored chosen chosen'

theorem sight_runAll (covers : veil.Covers actions) (same : veil.sight left = veil.sight right)
    (orderly : Orderly actions left) (orderly' : Orderly actions right) (batch : List Handle) :
    veil.sight (runAll batch left).2 = veil.sight (runAll batch right).2 := by
  induction batch generalizing left right with
  | nil => exact same
  | cons view rest ih =>
    rw [runAll_cons orderly.forgiving, runAll_cons orderly'.forgiving]
    exact ih (sight_render covers same orderly orderly' view) (orderly.render view)
      (orderly'.render view)

theorem sight_runAll_filter (covers : veil.Covers actions) (orderly : Orderly actions board)
    (batch : List Handle) :
    veil.sight (runAll batch board).2 =
      veil.sight (runAll (batch.filter veil.isOutside) board).2 := by
  induction batch generalizing board with
  | nil => rfl
  | cons view rest ih =>
    rw [runAll_cons orderly.forgiving, ih (orderly.render view)]
    cases inside : veil.circle view.name with
    | false =>
      rw [List.filter_cons_of_pos (by simp [isOutside, inside]), runAll_cons orderly.forgiving]
    | true =>
      -- the rest of the batch is run from a dashboard that looks as it did before this render
      rw [List.filter_cons_of_neg (by simp [isOutside, inside])]
      exact sight_runAll covers (sight_render_inside covers orderly inside) (orderly.render view)
        orderly _

theorem sight_turn (covers : veil.Covers actions) (same : veil.sight left = veil.sight right)
    (orderly : Orderly actions left) (orderly' : Orderly actions right) :
    veil.sight left.turn.2 = veil.sight right.turn.2 := by
  have emptied : veil.sight { left with queue := [] } = veil.sight { right with queue := [] } :=
    congrArg (fun seen : Sight => { seen with queue := [] }) same
  have queued : left.queue.filter veil.isOutside = right.queue.filter veil.isOutside :=
    congrArg Sight.queue same
  unfold turn
  rw [sight_runAll_filter covers (orderly.withQueue []),
    sight_runAll_filter covers (orderly'.withQueue []), queued]
  exact sight_runAll covers emptied (orderly.withQueue []) (orderly'.withQueue []) _

end Veil

end TreeTable

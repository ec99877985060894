import TreeTable.Proofs.Dashboard.Ties

/-!
Dashboards seen from outside a circle of views. What the views of the circle are like is out of
sight, and so is what their sources hold and how far the delegates have come that they share with
nobody. Everything that a dashboard does for a view outside depends on what is in sight alone, and
what it does for a view of the circle stays out of sight.
-/

namespace TreeTable

/-- What is kept out of sight. -/
structure Veil where
  circle : String → Bool
  origin : String
  inside : circle origin = true
  sources : String → Bool
  serializers : String → Bool

@[ext] structure Sight where
  loop : Loop
  configs : Store Config
  presenters : Handle → Option Presenter
  sources : Handle → Option (Option Observed)
  views : Handle → Option (Option View)
  queue : List Handle

namespace Veil

open Dashboard (requestUpdate_of_idle requestUpdate_of_not_idle views_leave notify_eq)

variable (veil : Veil)

def isOutside (view : Handle) : Bool := !veil.circle view.name

def hears : Listener → Bool
  | .view view => veil.isOutside view
  | .bell _ => true

def presenter (handle : Handle) (presenter : Presenter) : Presenter :=
  if veil.serializers handle.name then { presenter with hook := none } else presenter

def source (handle : Handle) (observed : Observed) : Option Observed :=
  if veil.sources handle.name then none
  else some { observed with listeners := observed.listeners.filter veil.hears }

def view (handle : Handle) (state : View) : Option View :=
  if veil.circle handle.name then none else some state

def sight (board : Dashboard) : Sight where
  loop := board.loop
  configs := board.configs
  presenters handle := (board.presenters.value? handle).map (veil.presenter handle)
  sources handle := (board.sources.value? handle).map (veil.source handle)
  -- a run without the steps of the origin never has it
  views handle := if handle.name = veil.origin then none
    else (board.views.value? handle).map (veil.view handle)
  queue := board.queue.filter veil.isOutside

variable {veil} {board left right : Dashboard}

theorem ne_origin {name : String} (outside : veil.circle name = false) : name ≠ veil.origin := by
  rintro rfl
  simp [veil.inside] at outside

theorem value?_view (same : veil.sight left = veil.sight right) {view : Handle}
    (outside : veil.circle view.name = false) :
    left.views.value? view = right.views.value? view := by
  have seen := congrFun (congrArg Sight.views same) view
  simp only [sight, ne_origin outside, if_false] at seen
  have whole : veil.view view = some := funext fun state => by simp [Veil.view, outside]
  rw [whole] at seen
  exact Option.map_injective (fun _ _ => Option.some.inj) seen

theorem isSome_view (same : veil.sight left = veil.sight right) {view : Handle}
    (known : view.name ≠ veil.origin) :
    (left.views.value? view).isSome = (right.views.value? view).isSome := by
  have seen := congrArg Option.isSome (congrFun (congrArg Sight.views same) view)
  simpa only [sight, known, if_false, Option.isSome_map] using seen

theorem sight_note (board : Dashboard) (notice : Notice) :
    veil.sight (board.note notice) = veil.sight board := rfl

theorem sight_setView (board : Dashboard) (view : Handle) (state : View) :
    veil.sight (board.setView view state) = { veil.sight board with
      views := fun other => if other = view then
          if view.name = veil.origin then none else some (veil.view view state)
        else (veil.sight board).views other } := by
  refine Sight.ext rfl rfl rfl rfl ?_ rfl
  funext other
  by_cases same : other = view <;> simp [sight, Dashboard.setView, same]

theorem sight_setView_inside {view : Handle} (inside : veil.circle view.name = true)
    (known : view.name = veil.origin ∨ (board.views.value? view).isSome) (state : View) :
    veil.sight (board.setView view state) = veil.sight board := by
  rw [sight_setView]
  refine Sight.ext rfl rfl rfl rfl ?_ rfl
  funext other
  by_cases same : other = view
  · subst same
    rcases known with its | stored
    · simp [sight, its]
    · obtain ⟨state, stored⟩ := Option.isSome_iff_exists.mp stored
      simp [sight, stored, Veil.view, inside]
  · simp [same]

theorem sight_setSource (board : Dashboard) (source : Handle) (observed : Observed) :
    veil.sight (board.setSource source observed) = { veil.sight board with
      sources := fun other => if other = source then some (veil.source source observed)
        else (veil.sight board).sources other } := by
  refine Sight.ext rfl rfl rfl ?_ rfl rfl
  funext other
  by_cases same : other = source <;> simp [sight, Dashboard.setSource, same]

theorem sight_setSource_hidden {source : Handle} (hidden : veil.sources source.name = true)
    (known : (board.sources.value? source).isSome) (observed : Observed) :
    veil.sight (board.setSource source observed) = veil.sight board := by
  rw [sight_setSource]
  refine Sight.ext rfl rfl rfl ?_ rfl rfl
  funext other
  by_cases same : other = source
  · subst same
    obtain ⟨found, stored⟩ := Option.isSome_iff_exists.mp known
    simp [sight, stored, Veil.source, hidden]
  · simp [same]

theorem sight_putPresenter (board : Dashboard) (handle : Handle) (presenter : Presenter) :
    veil.sight { board with presenters := board.presenters.put handle presenter } =
      { veil.sight board with
        presenters := fun other => if other = handle then some (veil.presenter handle presenter)
          else (veil.sight board).presenters other } := by
  refine Sight.ext rfl rfl ?_ rfl rfl rfl
  funext other
  by_cases same : other = handle <;> simp [sight, same]

theorem filter_push (listener : Listener) (listeners : Array Listener) :
    (listeners.push listener).filter veil.hears =
      if veil.hears listener then (listeners.filter veil.hears).push listener
      else listeners.filter veil.hears := Array.filter_push

theorem filter_erase (listener : Listener) (listeners : Array Listener) :
    (listeners.erase listener).filter veil.hears =
      if veil.hears listener then (listeners.filter veil.hears).erase listener
      else listeners.filter veil.hears := by
  cases heard : veil.hears listener with
  | true => exact Array.erase_filter.symm
  | false =>
    have absent : listener ∉ listeners.filter veil.hears := by simp [heard]
    rw [← Array.erase_filter, Array.erase_of_not_mem absent]
    rfl

section Relisten

variable {listener : Listener} {change : Array Listener → Array Listener}
  (filters : ∀ listeners, (change listeners).filter veil.hears =
    if veil.hears listener then change (listeners.filter veil.hears)
    else listeners.filter veil.hears)

include filters

theorem sight_relisten (board : Dashboard) (source : Handle) :
    veil.sight (board.relisten source change) = { veil.sight board with
      sources := fun other => ((veil.sight board).sources other).map fun found =>
        if other = source ∧ veil.hears listener then
          found.map fun observed => { observed with listeners := change observed.listeners }
        else found } := by
  refine Sight.ext rfl rfl rfl ?_ rfl rfl
  funext other
  simp only [sight, Dashboard.relisten, Entries.value?_alter, Option.map_map]
  cases board.sources.value? other with
  | none => rfl
  | some observed =>
    by_cases same : other = source
    · subst same
      cases hidden : veil.sources other.name <;> cases heard : veil.hears listener <;>
        simp [Veil.source, hidden, filters, heard]
    · simp [same]

theorem sight_relisten_congr (same : veil.sight left = veil.sight right) (source : Handle) :
    veil.sight (left.relisten source change) = veil.sight (right.relisten source change) := by
  rw [sight_relisten filters, sight_relisten filters, same]

theorem sight_relisten_unseen (board : Dashboard) {source : Handle}
    (unseen : veil.sources source.name = true ∨ veil.hears listener = false) :
    veil.sight (board.relisten source change) = veil.sight board := by
  rw [sight_relisten filters]
  refine Sight.ext rfl rfl rfl ?_ rfl rfl
  funext other
  by_cases same : other = source
  · subst same
    rcases unseen with hidden | unheard
    · cases stored : board.sources.value? other <;> simp [sight, stored, Veil.source, hidden]
    · simp [unheard]
  · simp [same]

end Relisten

theorem sight_subscribe (same : veil.sight left = veil.sight right) (source : Handle)
    (listener : Listener) :
    veil.sight (left.subscribe source listener) = veil.sight (right.subscribe source listener) :=
  sight_relisten_congr (filter_push listener) same source

theorem sight_unsubscribe (same : veil.sight left = veil.sight right) (source : Handle)
    (listener : Listener) :
    veil.sight (left.unsubscribe source listener) =
      veil.sight (right.unsubscribe source listener) :=
  sight_relisten_congr (filter_erase listener) same source

theorem sight_subscribe_unseen (board : Dashboard) {source : Handle} {listener : Listener}
    (unseen : veil.sources source.name = true ∨ veil.hears listener = false) :
    veil.sight (board.subscribe source listener) = veil.sight board :=
  sight_relisten_unseen (filter_push listener) board unseen

theorem sight_unsubscribe_unseen (board : Dashboard) {source : Handle} {listener : Listener}
    (unseen : veil.sources source.name = true ∨ veil.hears listener = false) :
    veil.sight (board.unsubscribe source listener) = veil.sight board :=
  sight_relisten_unseen (filter_erase listener) board unseen

variable (veil) in
theorem sight_requestUpdate_of_idle {view : Handle} (idle : board.isIdle view = true) :
    ∃ state, board.views.value? view = some state ∧
      veil.sight (board.requestUpdate view) =
        { veil.sight (board.setView view { state with pending := true }) with
          queue := (veil.sight board).queue ++ [view].filter veil.isOutside } := by
  obtain ⟨state, notice, stored, _, result⟩ := requestUpdate_of_idle idle
  refine ⟨state, stored, ?_⟩
  rw [result]
  exact Sight.ext rfl rfl rfl rfl rfl (List.filter_append ..)

theorem sight_requestUpdate_inside (board : Dashboard) {view : Handle}
    (inside : veil.circle view.name = true) :
    veil.sight (board.requestUpdate view) = veil.sight board := by
  cases idle : board.isIdle view with
  | false => rw [requestUpdate_of_not_idle idle]
  | true =>
    obtain ⟨state, stored, seen⟩ := sight_requestUpdate_of_idle veil idle
    rw [seen, sight_setView_inside inside (.inr (by simp [stored]))]
    simp [isOutside, inside]

theorem sight_requestUpdate (same : veil.sight left = veil.sight right) (view : Handle) :
    veil.sight (left.requestUpdate view) = veil.sight (right.requestUpdate view) := by
  cases inside : veil.circle view.name with
  | true =>
    rw [sight_requestUpdate_inside left inside, sight_requestUpdate_inside right inside, same]
  | false =>
    have stored := value?_view same inside
    have idle : left.isIdle view = right.isIdle view := by simp only [Dashboard.isIdle, stored]
    cases waits : left.isIdle view with
    | false => rw [requestUpdate_of_not_idle waits, requestUpdate_of_not_idle (idle ▸ waits), same]
    | true =>
      obtain ⟨state, kept, seen⟩ := sight_requestUpdate_of_idle veil waits
      obtain ⟨state', kept', seen'⟩ := sight_requestUpdate_of_idle veil (idle ▸ waits)
      obtain rfl : state = state' := Option.some.inj (kept.symm.trans (stored.trans kept'))
      rw [seen, seen', sight_setView, sight_setView, same]

theorem sight_requestAll (same : veil.sight left = veil.sight right) (views : List Handle) :
    veil.sight (views.foldl Dashboard.requestUpdate left) =
      veil.sight (views.foldl Dashboard.requestUpdate right) := by
  induction views generalizing left right with
  | nil => exact same
  | cons view rest ih => exact ih (sight_requestUpdate same view)

theorem sight_requestAll_inside (board : Dashboard) {views : List Handle}
    (inside : ∀ view ∈ views, veil.circle view.name = true) :
    veil.sight (views.foldl Dashboard.requestUpdate board) = veil.sight board := by
  induction views generalizing board with
  | nil => rfl
  | cons view rest ih =>
    rw [List.foldl_cons, ih _ fun other later => inside other (List.mem_cons_of_mem _ later)]
    exact sight_requestUpdate_inside board (inside view List.mem_cons_self)

theorem hears_inside {view : Handle} (inside : veil.circle view.name = true) :
    veil.hears (.view view) = false := by
  simp [hears, isOutside, inside]

theorem sight_leave_inside (board : Dashboard) {view : Handle}
    (inside : veil.circle view.name = true) (source : Option Handle) :
    veil.sight (board.leave view source) = veil.sight board := by
  cases source with
  | none => rfl
  | some source => exact sight_unsubscribe_unseen board (.inr (hears_inside inside))

theorem sight_listen_inside (board : Dashboard) {view : Handle}
    (inside : veil.circle view.name = true) (source : Option Handle) :
    veil.sight (board.listen view source) = veil.sight board := by
  cases source with
  | none => rfl
  | some source => exact sight_subscribe_unseen board (.inr (hears_inside inside))

theorem sight_attach_inside (board : Dashboard) {view : Handle}
    (inside : veil.circle view.name = true) (source : Option Handle) :
    veil.sight (board.attach view source) = veil.sight board := by
  unfold Dashboard.attach
  split
  · rfl
  · rename_i state stored
    dsimp only
    rw [sight_note, sight_listen_inside _ inside, sight_requestUpdate_inside _ inside,
      sight_setView_inside inside, sight_leave_inside _ inside]
    rw [views_leave]
    exact .inr (by simp [stored])

theorem sight_attach (same : veil.sight left = veil.sight right) (view : Handle)
    (source : Option Handle) :
    veil.sight (left.attach view source) = veil.sight (right.attach view source) := by
  cases inside : veil.circle view.name with
  | true => rw [sight_attach_inside left inside, sight_attach_inside right inside, same]
  | false =>
    unfold Dashboard.attach
    rw [value?_view same inside]
    cases right.views.value? view with
    | none => exact same
    | some state =>
      have leaves : veil.sight (left.leave view state.source) =
          veil.sight (right.leave view state.source) := by
        cases state.source with
        | none => exact same
        | some previous => exact sight_unsubscribe same previous _
      have moved : veil.sight ((left.leave view state.source).setView view { state with source }) =
          veil.sight ((right.leave view state.source).setView view { state with source }) := by
        rw [sight_setView, sight_setView, leaves]
      have requested := sight_requestUpdate moved view
      cases source with
      | none => exact requested
      | some next => exact sight_subscribe requested next _

theorem sight_setPresenter_inside (board : Dashboard) {view : Handle}
    (inside : veil.circle view.name = true) (presenter : Handle) :
    veil.sight (Dashboard.setPresenter board view presenter) = veil.sight board := by
  unfold Dashboard.setPresenter
  split
  · rfl
  · rename_i state stored
    rw [sight_requestUpdate_inside _ inside, sight_setView_inside inside (.inr (by simp [stored]))]

theorem sight_setPresenter (same : veil.sight left = veil.sight right) (view presenter : Handle) :
    veil.sight (Dashboard.setPresenter left view presenter) =
      veil.sight (Dashboard.setPresenter right view presenter) := by
  cases inside : veil.circle view.name with
  | true => rw [sight_setPresenter_inside left inside, sight_setPresenter_inside right inside, same]
  | false =>
    unfold Dashboard.setPresenter
    rw [value?_view same inside]
    cases right.views.value? view with
    | none => exact same
    | some state =>
      apply sight_requestUpdate
      rw [sight_setView, sight_setView, same]

theorem value?_source (same : veil.sight left = veil.sight right) {source : Handle}
    (visible : veil.sources source.name = false) :
    let heard (observed : Observed) : Observed :=
      { observed with listeners := observed.listeners.filter veil.hears }
    (left.sources.value? source).map heard = (right.sources.value? source).map heard := by
  intro heard
  have seen := congrFun (congrArg Sight.sources same) source
  have whole : veil.source source = some ∘ heard := by
    funext observed
    simp [Veil.source, visible, heard]
  simp only [sight, whole, ← Option.map_map] at seen
  exact Option.map_injective (fun _ _ => Option.some.inj) seen

theorem sight_follow (same : veil.sight left = veil.sight right) (source : Handle)
    (script : List (Bool × String)) :
    veil.sight (script.foldl (Dashboard.follow source) left) =
      veil.sight (script.foldl (Dashboard.follow source) right) := by
  induction script generalizing left right with
  | nil => exact same
  | cons line rest ih =>
    apply ih
    unfold Dashboard.follow
    split
    · exact sight_subscribe same source _
    · exact sight_unsubscribe same source _

theorem sight_follow_hidden {source : Handle} (hidden : veil.sources source.name = true)
    (script : List (Bool × String)) (board : Dashboard) :
    veil.sight (script.foldl (Dashboard.follow source) board) = veil.sight board := by
  induction script generalizing board with
  | nil => rfl
  | cons line rest ih =>
    refine (ih _).trans ?_
    unfold Dashboard.follow
    split
    · exact sight_subscribe_unseen board (.inl hidden)
    · exact sight_unsubscribe_unseen board (.inl hidden)

theorem sight_tell (same : veil.sight left = veil.sight right) {source : Handle}
    (visible : veil.sources source.name = false) (listener : Listener) :
    veil.sight (Dashboard.tell source left listener) =
      veil.sight (Dashboard.tell source right listener) := by
  cases listener with
  | view view => exact sight_requestUpdate same view
  | bell bell =>
    have script : ∀ board : Dashboard,
        (board.sources.value? source).bind (fun observed => observed.scripts.value? bell) =
          ((board.sources.value? source).map Observed.scripts).bind (Entries.value? · bell) := by
      intro board
      cases board.sources.value? source <;> rfl
    have scripts : (left.sources.value? source).map Observed.scripts =
        (right.sources.value? source).map Observed.scripts := by
      have seen := congrArg (Option.map Observed.scripts) (value?_source same visible)
      rwa [Option.map_map, Option.map_map] at seen
    have rung : veil.sight { left with rung := left.rung.push bell } =
        veil.sight { right with rung := right.rung.push bell } := same
    have followed := sight_follow rung source
      ((((left.sources.value? source).map Observed.scripts).bind (Entries.value? · bell)).getD [])
    unfold Dashboard.tell
    dsimp only
    rw [script left, script right, ← scripts]
    exact followed

theorem sight_tellAll (same : veil.sight left = veil.sight right) {source : Handle}
    (visible : veil.sources source.name = false) (listeners : List Listener) :
    veil.sight (listeners.foldl (Dashboard.tell source) left) =
      veil.sight (listeners.foldl (Dashboard.tell source) right) := by
  induction listeners generalizing left right with
  | nil => exact same
  | cons listener rest ih => exact ih (sight_tell same visible listener)

theorem sight_tellAll_filter {source : Handle} (visible : veil.sources source.name = false)
    (listeners : List Listener) (board : Dashboard) :
    veil.sight (listeners.foldl (Dashboard.tell source) board) =
      veil.sight ((listeners.filter veil.hears).foldl (Dashboard.tell source) board) := by
  induction listeners generalizing board with
  | nil => rfl
  | cons listener rest ih =>
    cases heard : veil.hears listener with
    | true =>
      rw [List.filter_cons_of_pos heard]
      exact ih _
    | false =>
      have skipped : veil.sight (Dashboard.tell source board listener) = veil.sight board := by
        cases listener with
        | bell bell => cases heard
        | view view =>
          exact sight_requestUpdate_inside board (by simpa [hears, isOutside] using heard)
      rw [List.filter_cons_of_neg (by simp [heard]), List.foldl_cons, ih]
      exact sight_tellAll skipped visible _

theorem sight_notify (same : veil.sight left = veil.sight right) {source : Handle}
    (visible : veil.sources source.name = false) :
    veil.sight (left.notify source) = veil.sight (right.notify source) := by
  have seen := value?_source same visible
  cases known : left.sources.value? source with
  | none =>
    rw [known] at seen
    have known' : right.sources.value? source = none := Option.map_eq_none_iff.mp seen.symm
    unfold Dashboard.notify
    rw [known, known']
    exact same
  | some observed =>
    rw [known] at seen
    obtain ⟨observed', known', heard⟩ := Option.map_eq_some_iff.mp seen.symm
    have listeners := congrArg (fun observed => observed.listeners.toList) heard
    simp only [Array.toList_filter] at listeners
    rw [notify_eq known, notify_eq known', sight_tellAll_filter visible,
      sight_tellAll_filter visible observed'.listeners.toList, listeners]
    exact sight_tellAll same visible _

theorem sight_notify_hidden {source : Handle} (hidden : veil.sources source.name = true)
    {observed : Observed} (known : board.sources.value? source = some observed)
    (inside : ∀ view, .view view ∈ observed.listeners → veil.circle view.name = true) :
    veil.sight (board.notify source) = veil.sight board := by
  rw [notify_eq known]
  have insideAll : ∀ view, .view view ∈ observed.listeners.toList → veil.circle view.name = true :=
    fun view listens => inside view (Array.mem_toList_iff.mp listens)
  generalize observed.listeners.toList = listeners at insideAll
  clear known
  induction listeners generalizing board with
  | nil => rfl
  | cons listener rest ih =>
    rw [List.foldl_cons, ih fun view later => insideAll view (List.mem_cons_of_mem _ later)]
    cases listener with
    | view view => exact sight_requestUpdate_inside board (insideAll view List.mem_cons_self)
    | bell bell => exact sight_follow_hidden hidden _ _

end Veil

end TreeTable

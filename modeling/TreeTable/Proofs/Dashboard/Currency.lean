import TreeTable.Proofs.Dashboard.Coalescing
import TreeTable.Proofs.Dashboard.Subscription
import TreeTable.Proofs.Granted

/-!
No update is lost: a view of which no render is requested shows what its serializer makes of its
source at this moment, and a view of which one is requested has a render waiting. A change makes
views late; before it is over, a render of each of them is requested.
-/

namespace TreeTable.Dashboard

variable {board before middle after : Dashboard} {steady : Prop}

/-! ## What renders depend on -/

def serializerAt (board : Dashboard) (presenter : Handle) : Option Serializer :=
  (board.presenters.value? presenter).map board.serializerOf

def contentAt (board : Dashboard) (source : Handle) : Option (Option Content) :=
  (board.sources.value? source).map Observed.content

structure Undisturbed (before after : Dashboard) : Prop where
  serializers : ∀ presenter serializer,
    before.serializerAt presenter = some serializer → after.serializerAt presenter = some serializer
  contents : ∀ source content,
    before.contentAt source = some content → after.contentAt source = some content

/-- The view shows what its serializer makes of its source, if that comes to a text. -/
def UpToDate (board : Dashboard) (state : View) : Prop :=
  ∀ serializer text, board.serializerAt state.presenter = some serializer →
    (serializer.serialize (board.contentOf state.source)).outcome = .ok text → state.text = text

theorem contentOf_some (board : Dashboard) (source : Handle) :
    board.contentOf (some source) = (board.contentAt source).join := by
  simp only [contentOf, contentAt, Option.bind_eq_bind, Option.bind_some]
  cases board.sources.value? source <;> rfl

theorem Undisturbed.refl (board : Dashboard) : Undisturbed board board :=
  ⟨fun _ _ known => known, fun _ _ known => known⟩

theorem Undisturbed.trans (first : Undisturbed before middle) (second : Undisturbed middle after) :
    Undisturbed before after where
  serializers presenter serializer known :=
    second.serializers presenter serializer (first.serializers presenter serializer known)
  contents source content known :=
    second.contents source content (first.contents source content known)

theorem Undisturbed.of_same (configs : after.configs = before.configs)
    (presenters : after.presenters = before.presenters) (sources : after.sources = before.sources) :
    Undisturbed before after := by
  constructor
  · intro presenter serializer known
    unfold serializerAt serializerOf configOf at known ⊢
    rw [configs, presenters]
    exact known
  · intro source content known
    unfold contentAt at known ⊢
    rw [sources]
    exact known

theorem Undisturbed.requestUpdate (board : Dashboard) (view : Handle) :
    Undisturbed board (board.requestUpdate view) := by
  obtain ⟨_, _, _, framed⟩ := requestUpdate_frame board view
  rw [framed]
  exact .of_same rfl rfl rfl

theorem Undisturbed.relisten (board : Dashboard) (source : Handle)
    (change : Array Listener → Array Listener) :
    Undisturbed board (board.relisten source change) := by
  refine ⟨fun _ _ known => known, ?_⟩
  intro other content known
  simp only [contentAt, Dashboard.relisten, Entries.value?_alter, Option.map_map] at known ⊢
  rw [← known]
  congr 1
  funext observed
  simp only [Function.comp_apply]
  split <;> rfl

theorem Undisturbed.leave (board : Dashboard) (view : Handle) (source : Option Handle) :
    Undisturbed board (board.leave view source) := by
  cases source with
  | none => exact refl board
  | some source => exact relisten board source (·.erase (.view view))

theorem Undisturbed.listen (board : Dashboard) (view : Handle) (source : Option Handle) :
    Undisturbed board (board.listen view source) := by
  cases source with
  | none => exact refl board
  | some source => exact relisten board source (·.push (.view view))

theorem Undisturbed.spend {handle : Handle} {presenter : Presenter}
    (known : board.presenters.value? handle = some presenter) (asked : Nat) :
    Undisturbed board
      { board with presenters := board.presenters.put handle (presenter.spend asked) } := by
  refine ⟨?_, fun _ _ known => known⟩
  intro other serializer found
  by_cases same : other = handle
  · subst same
    simp only [serializerAt, known, Option.map_some] at found
    simp only [serializerAt, Entries.value?_put_self, Option.map_some]
    exact found
  · simp only [serializerAt, Entries.value?_put_of_ne _ _ same] at found ⊢
    exact found

theorem Undisturbed.setSource {source : Handle} {observed changed : Observed}
    (known : board.sources.value? source = some observed)
    (content : changed.content = observed.content) :
    Undisturbed board (board.setSource source changed) := by
  refine ⟨fun _ _ known => known, ?_⟩
  intro other held found
  by_cases same : other = source
  · subst same
    simp only [contentAt, known, Option.map_some] at found
    simp only [contentAt, Dashboard.setSource, Entries.value?_put_self, Option.map_some, content]
    exact found
  · simp only [contentAt, Dashboard.setSource, Entries.value?_put_of_ne _ _ same] at found ⊢
    exact found

theorem Undisturbed.addSource (kept : board.WellKept) (name : String) (observed : Observed) :
    Undisturbed board (board.setSource (board.sources.next name) observed) := by
  refine ⟨fun _ _ known => known, ?_⟩
  intro other held found
  have different : other ≠ board.sources.next name := by
    rintro rfl
    simp [contentAt, kept.sources.value?_next name] at found
  simp only [contentAt, Dashboard.setSource, Entries.value?_put_of_ne _ _ different] at found ⊢
  exact found

theorem Undisturbed.addPresenter (kept : board.WellKept) (name : String) (presenter : Presenter) :
    Undisturbed board
      { board with presenters := board.presenters.put (board.presenters.next name) presenter } := by
  refine ⟨?_, fun _ _ known => known⟩
  intro other serializer found
  have different : other ≠ board.presenters.next name := by
    rintro rfl
    simp [serializerAt, kept.presenters.value?_next name] at found
  simp only [serializerAt, Entries.value?_put_of_ne _ _ different] at found ⊢
  exact found

theorem Undisturbed.addConfig (kept : board.WellKept) (name : String) (config : Config) :
    Undisturbed board
      { board with configs := board.configs.put (board.configs.next name) config } := by
  refine ⟨?_, fun _ _ known => known⟩
  intro other serializer found
  simp only [serializerAt, Option.map_eq_some_iff] at found ⊢
  obtain ⟨presenter, chosen, rfl⟩ := found
  refine ⟨presenter, chosen, ?_⟩
  unfold serializerOf configOf
  cases refers : presenter.config with
  | own config => rfl
  | shared shared =>
    have different : shared ≠ board.configs.next name := by
      rintro rfl
      have known := kept.configured other presenter _ chosen refers
      simp [kept.configs.value?_next name] at known
    simp [different]

theorem Undisturbed.render (kept : board.WellKept) (view : Handle) :
    Undisturbed board (board.render view).2 := by
  cases stored : board.views.value? view with
  | none =>
    rw [render_of_missing stored]
    exact refl board
  | some state =>
    obtain ⟨presenter, chosen⟩ := Option.isSome_iff_exists.mp (kept.presented view state stored)
    obtain ⟨views, log, rendered, _⟩ := render_eq stored chosen
    rw [rendered]
    exact (spend chosen _).trans (of_same rfl rfl rfl)

theorem UpToDate.of_undisturbed (undisturbed : Undisturbed before after) {state : View}
    (presented : (before.presenters.value? state.presenter).isSome)
    (attached : ∀ source, state.source = some source → (before.sources.value? source).isSome)
    (current : before.UpToDate state) : after.UpToDate state := by
  intro serializer text found outcome
  obtain ⟨presenter, chosen⟩ := Option.isSome_iff_exists.mp presented
  have known : before.serializerAt state.presenter = some (before.serializerOf presenter) := by
    simp [serializerAt, chosen]
  have same : serializer = before.serializerOf presenter := by
    have later := undisturbed.serializers _ _ known
    exact Option.some.inj (found.symm.trans later)
  have content : after.contentOf state.source = before.contentOf state.source := by
    cases shown : state.source with
    | none => rfl
    | some source =>
      obtain ⟨observed, held⟩ := Option.isSome_iff_exists.mp (attached source shown)
      have known : before.contentAt source = some observed.content := by simp [contentAt, held]
      rw [contentOf_some, contentOf_some, known, undisturbed.contents _ _ known]
  apply current serializer text
  · rw [known, same]
  · rw [← content]
    exact outcome

/-! ## Late views -/

/-- All views but the late ones show what they should, unless a render of them is requested. -/
def Current (late : Handle → Prop) (board : Dashboard) : Prop :=
  ∀ view state, board.views.value? view = some state → state.pending = false → ¬ late view →
    board.UpToDate state

theorem Current.mono {late later : Handle → Prop} (current : Current late board)
    (more : ∀ view, late view → later view) : Current later board :=
  fun view state stored rested prompt =>
    current view state stored rested fun slow => prompt (more view slow)

theorem Current.of_undisturbed {late : Handle → Prop} (current : Current late before)
    (kept : before.WellKept) (undisturbed : Undisturbed before after)
    (views : after.views = before.views) : Current late after := by
  intro view state stored rested prompt
  rw [views] at stored
  exact (current view state stored rested prompt).of_undisturbed undisturbed
    (kept.presented view state stored) (fun source => kept.attached view state source stored)

theorem Current.requestUpdate {late : Handle → Prop} (current : Current late board)
    (kept : board.WellKept) (view : Handle) :
    Current (fun other => late other ∧ other ≠ view) (board.requestUpdate view) := by
  intro other state stored rested prompt
  rw [value?_requestUpdate, Option.map_eq_some_iff] at stored
  obtain ⟨old, stored, rfl⟩ := stored
  by_cases same : other = view
  · simp [same] at rested
  · simp only [same, if_false] at rested ⊢
    have prompt : ¬ late other := fun slow => prompt ⟨slow, same⟩
    exact (current other old stored rested prompt).of_undisturbed (.requestUpdate board view)
      (kept.presented other old stored) (fun source => kept.attached other old source stored)

theorem Current.setView {late : Handle → Prop} (current : Current late board)
    (view : Handle) (state : View) :
    Current (fun other => late other ∨ other = view) (board.setView view state) := by
  intro other found stored rested prompt
  simp only [not_or] at prompt
  simp only [Dashboard.setView, Entries.value?_put_of_ne _ _ prompt.2] at stored
  exact current other found stored rested prompt.1

theorem Current.setSource (current : Current (fun _ => False) board) (source : Handle)
    (observed : Observed) :
    Current (fun view => board.shows view = some source) (board.setSource source observed) := by
  intro view state stored rested prompt serializer text found outcome
  apply current view state stored rested id serializer text found
  have elsewhere : state.source ≠ some source := by
    intro attached
    have stored : board.views.value? view = some state := stored
    exact prompt (by simp [shows, stored, attached])
  cases attached : state.source with
  | none =>
    rw [attached] at outcome
    exact outcome
  | some other =>
    have different : other ≠ source := by
      rintro rfl
      exact elsewhere attached
    rw [attached, contentOf_some] at outcome
    rw [contentOf_some]
    simpa [contentAt, Dashboard.setSource, different] using outcome

theorem Current.tellAll {late : Handle → Prop} (source : Handle) (listeners : List Listener)
    (current : Current late board) (kept : board.WellKept) :
    Current (fun view => late view ∧ .view view ∉ listeners)
      (listeners.foldl (tell source) board) := by
  -- whoever is told is late no more; the bells among the listeners do not touch the views
  induction listeners generalizing board late with
  | nil => exact current.mono fun _ slow => ⟨slow, by simp⟩
  | cons listener rest ih =>
    have first : (tell source board listener).WellKept ∧
        Current (fun view => late view ∧ .view view ≠ listener) (tell source board listener) := by
      cases listener with
      | view view =>
        refine ⟨kept.requestUpdate view, (current.requestUpdate kept view).mono ?_⟩
        rintro other ⟨slow, different⟩
        exact ⟨slow, by simpa using different⟩
      | bell bell =>
        have rung := tellAll_induction
          (P := fun board => board.WellKept ∧ Current late board) source
          (fun _ view ⟨kept, current⟩ => ⟨kept.requestUpdate view,
            (current.requestUpdate kept view).mono fun _ slow => slow.1⟩)
          (fun before source _ ⟨kept, current⟩ => ⟨kept.subscribe source _,
            current.of_undisturbed kept (.relisten before source _) rfl⟩)
          (fun before source _ ⟨kept, current⟩ => ⟨kept.unsubscribe source _,
            current.of_undisturbed kept (.relisten before source _) rfl⟩)
          (fun _ _ ⟨kept, current⟩ => ⟨kept.of_stores rfl rfl rfl rfl,
            current.of_undisturbed kept (.of_same rfl rfl rfl) rfl⟩)
          [.bell bell] board ⟨kept, current⟩
        exact ⟨rung.1, rung.2.mono fun _ slow => ⟨slow, by simp⟩⟩
    refine (ih first.2 first.1).mono ?_
    rintro view ⟨⟨slow, different⟩, absent⟩
    exact ⟨slow, by simp [different, absent]⟩

theorem Current.change (current : Current (fun _ => False) board) (kept : board.WellKept)
    (subscribed : board.Subscribed) {source : Handle} {observed : Observed}
    (known : board.sources.value? source = some observed) (content : Option Content) :
    Current (fun _ => False)
      ((board.setSource source { observed with content }).notify source) := by
  let changed := board.setSource source { observed with content }
  have keptChanged : changed.WellKept :=
    kept.setSource (kept.sources.put_known (by simp [known]) _)
  have stored : changed.sources.value? source = some { observed with content } := by
    simp [changed, Dashboard.setSource]
  have told := (current.setSource source { observed with content }).tellAll source
    observed.listeners.toList keptChanged
  rw [notify_eq stored]
  refine told.mono ?_
  rintro view ⟨shows, absent⟩
  have listens := subscribed source view
  rw [if_pos shows] at listens
  simp only [subscriptions, known] at listens
  have present : Listener.view view ∈ observed.listeners := by
    rw [← Array.count_pos_iff]
    omega
  exact absent (by simpa using present)

theorem Current.attach (current : Current (fun _ => False) board) (kept : board.WellKept)
    (view : Handle) {source : Option Handle}
    (known : ∀ handle, source = some handle → (board.sources.value? handle).isSome) :
    Current (fun _ => False) (board.attach view source) := by
  unfold Dashboard.attach
  cases stored : board.views.value? view with
  | none => exact current
  | some state =>
    let left := board.leave view state.source
    let moved := left.setView view { state with source }
    have keptMoved : moved.WellKept := kept.moved stored known
    have leaves : Current (fun _ => False) left :=
      current.of_undisturbed kept (.leave board view state.source) (views_leave _ _ _)
    let listening := (moved.requestUpdate view).listen view source
    have requested := (leaves.setView view { state with source }).requestUpdate keptMoved view
    have listens : Current (fun other => (False ∨ other = view) ∧ other ≠ view) listening :=
      requested.of_undisturbed (keptMoved.requestUpdate view) (.listen _ view source)
        (views_listen _ view source)
    have noted : Undisturbed listening
        (listening.note (.attached (listening.contentOf source))) := .of_same rfl rfl rfl
    have keptListening : listening.WellKept := (keptMoved.requestUpdate view).listen view source
    refine (listens.of_undisturbed keptListening noted rfl).mono ?_
    rintro other ⟨slow, different⟩
    exact slow.elim id different

theorem Current.setPresenter (current : Current (fun _ => False) board) (kept : board.WellKept)
    (view : Handle) {presenter : Handle} (known : (board.presenters.value? presenter).isSome) :
    Current (fun _ => False) (Dashboard.setPresenter board view presenter) := by
  unfold Dashboard.setPresenter
  split
  · exact current
  · rename_i state stored
    have changed := kept.setView_known { state with presenter } stored known
      (fun source => kept.attached view state source stored)
    refine ((current.setView view { state with presenter }).requestUpdate changed view).mono ?_
    rintro other ⟨slow, different⟩
    exact slow.elim id different

theorem Move.current (move : Move steady before after) (holds : steady) (kept : before.WellKept)
    (subscribed : before.Subscribed) (current : Current (fun _ => False) before) :
    Current (fun _ => False) after := by
  cases move with
  | setConfig loose | setPresenter loose | setContent loose => exact absurd holds loose
  | aside pages log => exact current.of_undisturbed kept (.of_same rfl rfl rfl) rfl
  | addConfig name config =>
    exact current.of_undisturbed kept (.addConfig kept name config) rfl
  | addPresenter name presenter configured =>
    exact current.of_undisturbed kept (.addPresenter kept name presenter) rfl
  | addSource name content =>
    exact current.of_undisturbed kept (.addSource kept name { content }) rfl
  | setScripts source observed scripts known =>
    exact current.of_undisturbed kept (.setSource known rfl) rfl
  | subscribe source bell =>
    exact current.of_undisturbed kept (.relisten before source _) rfl
  | unsubscribe source bell =>
    exact current.of_undisturbed kept (.relisten before source _) rfl
  | change source observed content known => exact current.change kept subscribed known content
  | addView name presenter known =>
    intro view state stored rested prompt
    by_cases same : view = before.views.next name
    · subst same
      -- a new view shows no source, and that comes to the empty text
      simp only [setView, Entries.value?_put_self, Option.some.injEq] at stored
      subst stored
      intro serializer text _ outcome
      exact Except.ok.inj outcome
    · simp only [setView, Entries.value?_put_of_ne _ _ same] at stored
      exact current view state stored rested prompt
  | attach view source known => exact current.attach kept view known
  | present view presenter known => exact current.setPresenter kept view known
  | request view => exact (current.requestUpdate kept view).mono fun _ slow => slow.1

theorem Moves.current (moves : Moves steady before after) (holds : steady) (kept : before.WellKept)
    (subscribed : before.Subscribed) (current : Current (fun _ => False) before) :
    Current (fun _ => False) after := by
  have both := moves.induction (P := fun board => board.Subscribed ∧ Current (fun _ => False) board)
    kept ⟨subscribed, current⟩ fun _ _ kept move ⟨subscribed, current⟩ =>
      ⟨move.subscribed kept subscribed, move.current holds kept subscribed current⟩
  exact both.2

/-! ## Renders -/

/-- In a render of the view its delegate reaches every view that it wishes for; one that wishes for a
view that is not there fails to give the cell text. -/
def Reaches (board : Dashboard) (view : Handle) : Prop :=
  ∀ state presenter, board.views.value? view = some state →
    board.presenters.value? state.presenter = some presenter →
    ∀ number < (board.draw presenter state.source).asked, board.refusal presenter number = none

theorem reaches_iff (board : Dashboard) (view : Handle) :
    board.Reaches view ↔ ∀ state ∈ board.views.value? view,
      ∀ presenter ∈ board.presenters.value? state.presenter,
        ∀ number < (board.draw presenter state.source).asked,
          board.refusal presenter number = none :=
  ⟨fun reaches state stored presenter chosen => reaches state presenter stored chosen,
    fun reaches state presenter stored chosen => reaches state stored presenter chosen⟩

instance (board : Dashboard) (view : Handle) : Decidable (board.Reaches view) :=
  decidable_of_iff _ (board.reaches_iff view).symm

theorem draw_lower {view : Handle} {state : View} {presenter : Presenter}
    (stored : board.views.value? view = some state)
    (chosen : board.presenters.value? state.presenter = some presenter)
    (reaches : board.Reaches view) :
    (board.lower view).draw presenter state.source =
      (board.serializerOf presenter).serialize (board.contentOf state.source) := by
  have names : ∀ name, (board.lower view).views.latest? name = board.views.latest? name := by
    intro name
    rw [lower_eq stored]
    exact Store.latest?_put_known (by simp [stored]) _ name
  have refusal : (board.lower view).refusal presenter = board.refusal presenter := by
    funext number
    unfold Dashboard.refusal
    simp only [names]
  have lowered : (board.lower view).draw presenter state.source =
      board.draw presenter state.source := by
    unfold draw
    rw [refusal, lower_eq stored]
    rfl
  rw [lowered]
  exact Serializer.serialize_of_granted fun number within => by
    rw [Nat.zero_add]
    exact reaches state presenter stored chosen number within

theorem upToDate_publish (state : View) {presenter : Presenter}
    (chosen : board.presenters.value? state.presenter = some presenter) :
    board.UpToDate (state.publish
      ((board.serializerOf presenter).serialize (board.contentOf state.source)).outcome) := by
  intro serializer text known outcome
  rw [View.presenter_publish, serializerAt, chosen, Option.map_some, Option.some.injEq] at known
  rw [View.source_publish, ← known] at outcome
  rw [outcome]
  rfl

theorem Current.render (current : Current (fun _ => False) board) (kept : board.WellKept)
    {view : Handle} (reaches : board.Reaches view) :
    Current (fun _ => False) (board.render view).2 := by
  have undisturbed := Undisturbed.render kept view
  cases stored : board.views.value? view with
  | none =>
    rw [render_of_missing stored]
    exact current
  | some state =>
    obtain ⟨presenter, chosen⟩ := Option.isSome_iff_exists.mp (kept.presented view state stored)
    intro other found storedAfter rested _
    rw [value?_render stored chosen, draw_lower stored chosen reaches,
      Option.map_eq_some_iff] at storedAfter
    obtain ⟨old, storedBefore, result⟩ := storedAfter
    have presented := kept.presented other old storedBefore
    have attached := fun source => kept.attached other old source storedBefore
    by_cases same : other = view
    · subst same
      obtain rfl : old = state := Option.some.inj (storedBefore.symm.trans stored)
      rw [if_pos rfl] at result
      subst result
      have drawn := upToDate_publish { old with pending := (board.requestsOf other).contains other }
        chosen
      exact drawn.of_undisturbed undisturbed (by simpa using presented) (by simpa using attached)
    · rw [if_neg same] at result
      subst result
      have restedBefore : old.pending = false := by simp_all
      have before : board.UpToDate old := current other old storedBefore restedBefore id
      exact before.of_undisturbed undisturbed presented attached

theorem Current.runAll (current : Current (fun _ => False) board) (kept : board.WellKept)
    (forgiving : board.loop = .forgiving) {batch : List Handle}
    (reached : ∀ render ∈ rendersOf batch board, render.2.Reaches render.1) :
    Current (fun _ => False) (Dashboard.runAll batch board).2 := by
  induction batch generalizing board with
  | nil => exact current
  | cons view rest ih =>
    rw [rendersOf_cons forgiving, List.forall_mem_cons] at reached
    rw [runAll_cons forgiving]
    exact ih (current.render kept reached.1) (kept.render view)
      ((render_loop board view).trans forgiving) reached.2

/-! ## Runs -/

def rendersIn (board : Dashboard) : Action → List (Handle × Dashboard)
  | .turn => board.turnRenders
  | .render name => ((board.views.latest? name).map fun view => (view, board)).toList
  | _ => []

/-- In every render of a run, the delegate reaches every view that it wishes for. -/
def Served (board : Dashboard) : List Action → Prop
  | [] => True
  | action :: rest =>
    (∀ render ∈ board.rendersIn action, render.2.Reaches render.1) ∧
      Served (board.perform action).2 rest

instance decidableServed : (board : Dashboard) → (actions : List Action) →
    Decidable (board.Served actions)
  | _, [] => isTrue trivial
  | board, action :: rest =>
    let _ := decidableServed (board.perform action).2 rest
    inferInstanceAs (Decidable ((∀ render ∈ board.rendersIn action, render.2.Reaches render.1) ∧
      (board.perform action).2.Served rest))

def Covered (rest : List Handle) (board : Dashboard) : Prop :=
  ∀ view, (board.isPending view).toNat ≤ rest.count view + board.queue.count view

theorem Paired.covered (paired : Paired before after) (covered : Covered [] before) :
    Covered [] after := by
  intro view
  have := paired view
  have := covered view
  omega

theorem Covered.render (kept : board.WellKept) {view : Handle} {rest : List Handle}
    (covered : Covered (view :: rest) board) : Covered rest (board.render view).2 := by
  intro other
  have counted := count_queue_render kept view other
  have waiting := covered other
  by_cases same : other = view
  · subst same
    simp only [bne_self_eq_false, Bool.and_false, Bool.toNat_false] at counted
    omega
  · have different : (other != view) = true := by simpa using same
    rw [List.count_cons_of_ne (Ne.symm same)] at waiting
    rw [different, Bool.and_true] at counted
    omega

theorem Covered.runAll (kept : board.WellKept) (forgiving : board.loop = .forgiving)
    {batch : List Handle} (covered : Covered batch board) :
    Covered [] (Dashboard.runAll batch board).2 := by
  induction batch generalizing board with
  | nil => exact covered
  | cons view others ih =>
    rw [runAll_cons forgiving]
    exact ih (kept.render view) ((render_loop board view).trans forgiving) (covered.render kept)

theorem Performed.covered {action : Action} (done : Performed board action after)
    (kept : board.WellKept) (forgiving : board.loop = .forgiving) (covered : Covered [] board) :
    Covered [] after := by
  cases done with
  | moves _ moves => exact (Moves.paired moves kept).covered covered
  | turn =>
    have taken : Covered board.queue { board with queue := [] } := by
      intro view
      have waiting := covered view
      rw [List.count_nil, Nat.zero_add] at waiting
      exact waiting
    exact taken.runAll (kept.withQueue []) forgiving
  | missing => exact covered
  | render name view =>
    have more : Covered [view] board := by
      intro other
      have waiting := covered other
      rw [List.count_nil] at waiting
      omega
    exact more.render kept

theorem Performed.current {action : Action} (done : Performed board action after)
    (kept : board.WellKept) (forgiving : board.loop = .forgiving) (subscribed : board.Subscribed)
    (steady : action.keepsSettings)
    (reached : ∀ render ∈ board.rendersIn action, render.2.Reaches render.1)
    (current : Current (fun _ => False) board) : Current (fun _ => False) after := by
  cases done with
  | moves _ moves => exact Moves.current moves steady kept subscribed current
  | turn =>
    have emptied : Current (fun _ => False) { board with queue := [] } :=
      current.of_undisturbed kept (.of_same rfl rfl rfl) rfl
    exact emptied.runAll (kept.withQueue []) forgiving reached
  | missing => exact current
  | render name view latest =>
    exact current.render kept (reached (view, board) (by simp [rendersIn, latest]))

theorem run_covered (actions : List Action) :
    (start.run actions).WellKept ∧ Covered [] (start.run actions) := by
  obtain ⟨kept, -, covered⟩ := run_induction (P := Covered []) actions wellKept_start rfl
    (fun _ => Nat.zero_le _) fun _ _ _ _ kept forgiving done covered =>
      done.covered kept forgiving covered
  exact ⟨kept, covered⟩

theorem run_current {actions : List Action} (kept : board.WellKept)
    (forgiving : board.loop = .forgiving) (subscribed : board.Subscribed)
    (steady : ∀ action ∈ actions, action.keepsSettings) (served : board.Served actions)
    (current : Current (fun _ => False) board) : Current (fun _ => False) (board.run actions) := by
  -- `run_induction` does not apply: what the renders of an action reach depends on the run before it
  induction actions generalizing board with
  | nil => exact current
  | cons action rest ih =>
    rw [List.forall_mem_cons] at steady
    have done := performed kept action
    exact ih (done.wellKept kept) ((done.loop kept).trans forgiving)
      (done.subscribed kept subscribed) steady.2 served.2
      (done.current kept forgiving subscribed steady.1 served.1 current)

/-- However changes, requests, attachments, direct renders and turns follow each other, no update is
lost: a view of which a render is requested has one waiting, and where none is waiting the view
shows what its serializer makes of its source at this moment, whenever that comes to a text and the
renders so far were not refused anything. -/
theorem no_update_lost {actions : List Action}
    (steady : ∀ action ∈ actions, action.keepsSettings) :
    let board := start.run actions
    ∀ view state, board.views.value? view = some state →
      (state.pending → view ∈ board.queue) ∧
      (view ∉ board.queue → state.pending = false ∧
        ∃ presenter, board.presenters.value? state.presenter = some presenter ∧
          (start.Served actions → ∀ text, ((board.serializerOf presenter).serialize
            (board.contentOf state.source)).outcome = .ok text → state.text = text)) := by
  intro board view state stored
  obtain ⟨kept, covered⟩ := run_covered actions
  have waits : state.pending → view ∈ board.queue := by
    intro pending
    have flag : (board.isPending view).toNat = 1 := by simp [isPending, stored, pending]
    have waiting : (board.isPending view).toNat ≤ [].count view + board.queue.count view :=
      covered view
    have counted : 0 < board.queue.count view := by simpa [flag] using waiting
    exact List.count_pos_iff.mp counted
  refine ⟨waits, fun absent => ?_⟩
  have rested : state.pending = false := by
    cases pending : state.pending with
    | false => rfl
    | true => exact absurd (waits pending) absent
  obtain ⟨presenter, chosen⟩ := Option.isSome_iff_exists.mp (kept.presented view state stored)
  refine ⟨rested, presenter, chosen, fun served text outcome => ?_⟩
  have nobody : start.Subscribed := fun _ _ => rfl
  have nothing : Current (fun _ => False) start := fun _ _ stored => by cases stored
  have current := run_current wellKept_start rfl nobody steady served nothing
  have found : board.serializerAt state.presenter = some (board.serializerOf presenter) := by
    rw [serializerAt, chosen, Option.map_some]
  exact current view state stored rested id _ text found outcome

def changedMeanwhile : List Action :=
  [.defineSource "rows" (some (.matrix {})),
    .defineSerializer "csv" (.text "csv") none (.ok { hook := some ⟨"table", 1⟩ }) [],
    .defineView "table" "csv" (some "rows"), .turn,
    .call "rows" (.ok (.setCell (.text "first") (.text "name") (.text "x"))), .render "table",
    .turn]

theorem shown_when_changedMeanwhile :
    let board := start.run changedMeanwhile
    (board.views.value? ⟨"table", 0⟩).isSome ∧ ⟨"table", 0⟩ ∉ board.queue ∧
      ∀ state, board.views.value? ⟨"table", 0⟩ = some state → state.pending = false ∧
        ∃ presenter, board.presenters.value? state.presenter = some presenter ∧
          ∀ text, ((board.serializerOf presenter).serialize
            (board.contentOf state.source)).outcome = .ok text → state.text = text := by
  have absent : ⟨"table", 0⟩ ∉ (start.run changedMeanwhile).queue := by decide +kernel
  have served : start.Served changedMeanwhile := by decide +kernel
  refine ⟨by decide +kernel, absent, fun state stored => ?_⟩
  obtain ⟨rested, presenter, chosen, shown⟩ :=
    (no_update_lost (by decide) ⟨"table", 0⟩ state stored).2 absent
  exact ⟨rested, presenter, chosen, shown served⟩

end TreeTable.Dashboard

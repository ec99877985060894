import TreeTable.Proofs.Dashboard.Sight.Render

namespace TreeTable

namespace Veil

def hides (veil : Veil) : Action → Bool
  | .defineView name .. => name == veil.origin
  | .attach name _ | .setSerializer name _ | .request name | .render name => veil.circle name
  | .call source _ | .setFaults source _ => veil.sources source
  | action => action.isAside

open Dashboard

variable {actions : List Action} {veil : Veil} {board after left right : Dashboard}

theorem sight_call_hidden (covers : veil.Covers actions) (orderly : Orderly actions board)
    {name : String} (hidden : veil.sources name = true) {call : Except Failure Call} {reply : Reply}
    (done : board.call name call = .ok (reply, after)) : veil.sight after = veil.sight board := by
  simp only [Dashboard.call, bind_eq_ok, pure_eq_ok, Prod.mk.injEq] at done
  obtain ⟨⟨source, observed, content⟩, found, call, _, ⟨answer, changed⟩, performed, _, done⟩ :=
    done
  have known := (findSource_eq_ok found).1
  have named : veil.sources source.name = true := by
    rw [name_of_findSource found, hidden]
  have unseen : ∀ changed : Observed,
      veil.sight (board.setSource source changed) = veil.sight board :=
    sight_setSource_hidden named (by simp [known])
  cases changed with
  | none =>
    cases call with
    | subscribe bell script =>
      subst done
      exact (sight_subscribe_unseen _ (.inl named)).trans (unseen _)
    | unsubscribe bell =>
      subst done
      exact sight_unsubscribe_unseen _ (.inl named)
    | _ =>
      subst done
      rfl
  | some next =>
    cases call with
    | subscribe | unsubscribe =>
      cases content <;> simp [Content.perform] at performed
    | _ =>
      subst done
      -- whoever is told listens there, and so is in the circle
      refine (sight_notify_hidden named (Entries.value?_put_self _ _ _) ?_).trans (unseen _)
      intro view listens
      exact covers.shown view.name _ (orderly.attached_of_listens known listens) named

theorem sight_attempt_hidden (covers : veil.Covers actions) (orderly : Orderly actions board)
    {action : Action} (hidden : veil.hides action = true) {reply : Reply}
    (done : board.attempt action = .ok (reply, after)) : veil.sight after = veil.sight board := by
  cases action with
  | defineView name serializer source =>
    have origin : name = veil.origin := by simpa [hides] using hidden
    have inside : veil.circle (board.views.next name).name = true := by
      simpa [Store.next, origin] using veil.inside
    simp only [attempt, defineView, bind_eq_ok, pure_eq_ok, Prod.mk.injEq] at done
    obtain ⟨_, ⟨_, _, ⟨presenter, _⟩, _, done⟩, _, rfl⟩ := done
    have added : veil.sight (board.setView (board.views.next name) { presenter }) =
        veil.sight board := sight_setView_inside inside (.inl origin) _
    split at done
    · contradiction
    · simp only [pure_eq_ok] at done
      subst done
      split
      · exact (sight_attach_inside _ inside _).trans added
      · exact added
  | attach name source =>
    simp only [attempt, bind_eq_ok, pure_eq_ok, Prod.mk.injEq] at done
    obtain ⟨⟨view, _⟩, found, _, _, _, rfl⟩ := done
    rw [← name_of_find found] at hidden
    exact sight_attach_inside board hidden _
  | setSerializer name serializer =>
    simp only [attempt, bind_eq_ok, pure_eq_ok, Prod.mk.injEq] at done
    obtain ⟨⟨view, _⟩, found, _, _, _, rfl⟩ := done
    rw [← name_of_find found] at hidden
    exact sight_setPresenter_inside board hidden _
  | request name =>
    simp only [attempt, bind_eq_ok, pure_eq_ok, Prod.mk.injEq] at done
    obtain ⟨⟨view, _⟩, found, _, rfl⟩ := done
    rw [← name_of_find found] at hidden
    exact sight_requestUpdate_inside board hidden
  | call name call => exact sight_call_hidden covers orderly hidden done
  | setFaults name faults =>
    simp only [attempt, bind_eq_ok, pure_eq_ok, Prod.mk.injEq] at done
    obtain ⟨⟨source, observed, content⟩, found, _, rfl⟩ := done
    rw [hides, ← name_of_findSource found] at hidden
    exact sight_setSource_hidden hidden (by simp [(findSource_eq_ok found).1]) _
  | render name | turn =>
    simp only [attempt, Except.ok.injEq, Prod.mk.injEq] at done
    obtain ⟨_, rfl⟩ := done
    rfl
  | _ =>
    obtain ⟨_, rfl⟩ := attempt_aside (by exact hidden) done
    rfl

theorem sight_afterFailure_hidden {action : Action} (hidden : veil.hides action = true) :
    veil.sight (board.afterFailure action) = veil.sight board := by
  unfold afterFailure
  split
  · split
    · rfl
    · rename_i source observed content found
      rw [hides, ← name_of_findSource found] at hidden
      exact sight_setSource_hidden hidden (by simp [(findSource_eq_ok found).1]) _
  · rfl

theorem sight_perform_hidden (covers : veil.Covers actions) (orderly : Orderly actions board)
    {action : Action} (hidden : veil.hides action = true) :
    veil.sight (board.perform action).2 = veil.sight board := by
  cases action with
  | turn => cases hidden
  | render name =>
    unfold perform
    dsimp only
    split
    · rfl
    · rename_i view state found
      rw [hides, ← name_of_find found] at hidden
      exact sight_render_inside covers orderly hidden
  | _ =>
    unfold perform
    dsimp only
    split
    · rename_i result
      exact sight_attempt_hidden covers orderly hidden result
    · dsimp only
      exact sight_afterFailure_hidden hidden

theorem find_alike {α β : Type} {store store' : Store α} (numbered : store.Numbered)
    (numbered' : store'.Numbered) (seen : Handle → α → β) (name : String)
    (same : ∀ handle, handle.name = name →
      (store.value? handle).map (seen handle) = (store'.value? handle).map (seen handle)) :
    LookAlike (fun found => (found.1, seen found.1 found.2)) (find store name)
      (find store' name) := by
  have editions := numbered.editions_congr numbered' name fun edition => by
    simpa using congrArg Option.isSome (same ⟨name, edition⟩ rfl)
  have latest : store'.latest? name = store.latest? name := by simp only [Store.latest?, editions]
  unfold find
  rw [latest]
  cases named : store.latest? name with
  | none => exact .refl _
  | some handle =>
    have looks := same handle (Store.name_of_latest? named)
    dsimp only
    cases stored : store.value? handle with
    | none =>
      rw [stored] at looks
      rw [Option.map_eq_none_iff.mp looks.symm]
      exact .refl _
    | some object =>
      rw [stored] at looks
      obtain ⟨object', stored', looks⟩ := Option.map_eq_some_iff.mp looks.symm
      rw [stored']
      exact .ok (by rw [looks])

theorem source_eq_iff {source : Handle} {observed observed' : Observed}
    (visible : veil.sources source.name = false) :
    veil.source source observed = veil.source source observed' ↔
      observed.content = observed'.content ∧
        observed.listeners.filter veil.hears = observed'.listeners.filter veil.hears ∧
        observed.scripts = observed'.scripts := by
  simp [Veil.source, visible]

theorem source_withContent {source : Handle} {observed observed' : Observed}
    (looks : veil.source source observed = veil.source source observed')
    (content : Option Content) :
    veil.source source { observed with content } =
      veil.source source { observed' with content } := by
  cases hidden : veil.sources source.name with
  | true => simp [Veil.source, hidden]
  | false =>
    obtain ⟨_, heard⟩ := (source_eq_iff hidden).mp looks
    exact (source_eq_iff hidden).mpr ⟨rfl, heard⟩

section Find

variable (same : veil.sight left = veil.sight right) (kept : left.WellKept)
  (kept' : right.WellKept)

include same kept kept'

theorem find_view {name : String} (outside : veil.circle name = false) :
    find left.views name = find right.views name := by
  have alike := find_alike kept.views kept'.views (fun _ state => state) name
    fun handle its => congrArg (Option.map id) (value?_view same (its ▸ outside))
  simpa [LookAlike] using alike

theorem find_presenter (name : String) :
    LookAlike (fun found => (found.1, veil.presenter found.1 found.2))
      (find left.presenters name) (find right.presenters name) :=
  find_alike kept.presenters kept'.presenters _ name fun handle _ =>
    congrFun (congrArg Sight.presenters same) handle

theorem find_source (name : String) :
    LookAlike (fun found => (found.1, veil.source found.1 found.2))
      (find left.sources name) (find right.sources name) :=
  find_alike kept.sources kept'.sources _ name fun handle _ =>
    congrFun (congrArg Sight.sources same) handle

theorem findSource_alike {name : String} (visible : veil.sources name = false) :
    LookAlike (fun found => (found.1, veil.source found.1 found.2.1, found.2.2))
      (left.findSource name) (right.findSource name) := by
  refine (find_source same kept kept' name).bind_of_ok ?_
  rintro ⟨source, observed⟩ ⟨source', observed'⟩ found _ looks
  obtain ⟨rfl, looks⟩ := Prod.mk.inj looks
  have named : veil.sources source.name = false := by
    rw [name_of_find found, visible]
  have content := ((source_eq_iff named).mp looks).1
  dsimp only
  rw [← content]
  cases observed.content with
  | none => exact .refl _
  | some content => exact .ok (by rw [looks])

theorem findAttachable_alike {β : Type} (name : Option String) (seen : β) :
    LookAlike (fun _ => seen) (left.findAttachable name) (right.findAttachable name) := by
  cases name with
  | none => exact .refl _
  | some name => exact (find_source same kept kept' name).bind fun _ _ _ => .ok rfl

theorem findAttachable_eq {name : Option String}
    (visible : ∀ source, name = some source → veil.sources source = false) :
    left.findAttachable name = right.findAttachable name := by
  cases name with
  | none => rfl
  | some name =>
    have alike : LookAlike id (left.findAttachable (some name))
        (right.findAttachable (some name)) := by
      refine (find_source same kept kept' name).bind_of_ok ?_
      rintro ⟨source, observed⟩ ⟨source', observed'⟩ found _ looks
      obtain ⟨rfl, looks⟩ := Prod.mk.inj looks
      have named : veil.sources source.name = false := by
        rw [name_of_find found, visible name rfl]
      exact .ok (by rw [((source_eq_iff named).mp looks).1])
    simpa [LookAlike] using alike

end Find

theorem next_eq {α β : Type} {store store' : Store α} (numbered : store.Numbered)
    (numbered' : store'.Numbered) {seen : Handle → α → β} {name : String}
    (same : ∀ handle, handle.name = name →
      (store.value? handle).map (seen handle) = (store'.value? handle).map (seen handle)) :
    store.next name = store'.next name := by
  unfold Store.next
  rw [numbered.editions_congr numbered' name fun edition => by
    simpa using congrArg Option.isSome (same ⟨name, edition⟩ rfl)]

theorem sight_putConfig (same : veil.sight left = veil.sight right) (handle : Handle)
    (config : Config) :
    veil.sight { left with configs := left.configs.put handle config } =
      veil.sight { right with configs := right.configs.put handle config } :=
  congrArg (fun seen : Sight => { seen with configs := seen.configs.put handle config }) same

theorem sight_setShared (same : veil.sight left = veil.sight right) (config : Handle)
    (option : String) (value : Value) :
    veil.sight (left.setShared config option value) =
      veil.sight (right.setShared config option value) := by
  have configs : left.configs = right.configs := congrArg Sight.configs same
  have current : left.configs.value? config = right.configs.value? config := by rw [configs]
  unfold setShared
  rw [current]
  exact sight_putConfig same config _

theorem defineSerializer_alike (same : veil.sight left = veil.sight right) (kept : left.WellKept)
    (kept' : right.WellKept) (name : String) (format : Value) (config : Option String)
    (plan : Except Failure DelegatePlan) (options : List (String × Value)) :
    LookAlike veil.sight (left.defineSerializer name format config plan options)
      (right.defineSerializer name format config plan options) := by
  have configs : left.configs = right.configs := congrArg Sight.configs same
  have next : left.presenters.next name = right.presenters.next name :=
    next_eq kept.presenters kept'.presenters fun handle _ =>
      congrFun (congrArg Sight.presenters same) handle
  have added : ∀ presenter : Presenter, veil.sight { left with
        presenters := left.presenters.put (right.presenters.next name) presenter } =
      veil.sight { right with
        presenters := right.presenters.put (right.presenters.next name) presenter } := by
    intro presenter
    rw [sight_putPresenter, sight_putPresenter, same]
  rw [configs] at added
  unfold defineSerializer
  rw [configs, next]
  exact .bind_same _ fun shared => .bind_same _ fun plan => .bind_same _ fun serializer =>
    .ok (added _)

theorem presenter_withConfig {handle : Handle} {presenter presenter' : Presenter}
    (looks : veil.presenter handle presenter = veil.presenter handle presenter') :
    presenter.config = presenter'.config ∧ ∀ config,
      veil.presenter handle { presenter with config } =
        veil.presenter handle { presenter' with config } := by
  rcases presenter_eq_or looks with rfl | ⟨shared, inner⟩
  · exact ⟨rfl, fun _ => rfl⟩
  · rw [inner]
    exact ⟨rfl, fun _ => by simp [Veil.presenter, shared]⟩

theorem setOption_alike (same : veil.sight left = veil.sight right) (kept : left.WellKept)
    (kept' : right.WellKept) (serializer option : String) (value : Value) :
    LookAlike veil.sight (left.setOption serializer option value)
      (right.setOption serializer option value) := by
  refine (find_presenter same kept kept' serializer).bind ?_
  rintro ⟨handle, presenter⟩ ⟨handle', presenter'⟩ looks
  simp only [Prod.mk.injEq] at looks
  obtain ⟨rfl, looks⟩ := looks
  obtain ⟨options, set⟩ := presenter_withConfig looks
  dsimp only
  rw [← options]
  cases presenter.config with
  | shared config => exact .ok (sight_setShared same config option value)
  | own config =>
    refine .ok ?_
    rw [sight_putPresenter, sight_putPresenter, same, set]

theorem sight_setSource_congr (same : veil.sight left = veil.sight right) {source : Handle}
    {observed observed' : Observed}
    (looks : veil.source source observed = veil.source source observed') :
    veil.sight (left.setSource source observed) =
      veil.sight (right.setSource source observed') := by
  rw [sight_setSource, sight_setSource, same, looks]

theorem call_alike (same : veil.sight left = veil.sight right) (kept : left.WellKept)
    (kept' : right.WellKept) {name : String} (visible : veil.sources name = false)
    (call : Except Failure Call) :
    LookAlike (fun answer => veil.sight answer.2) (left.call name call) (right.call name call) := by
  refine (findSource_alike same kept kept' visible).bind_of_ok ?_
  rintro ⟨source, observed, content⟩ ⟨source', observed', content'⟩ found _ looks
  simp only [Prod.mk.injEq] at looks
  obtain ⟨rfl, looks, rfl⟩ := looks
  have named : veil.sources source.name = false := by
    rw [name_of_findSource found, visible]
  obtain ⟨contents, listeners, scripts⟩ := (source_eq_iff named).mp looks
  have looks : ∀ content scripts, veil.source source { observed with content, scripts } =
      veil.source source { observed' with content, scripts } :=
    fun _ _ => (source_eq_iff named).mpr ⟨rfl, listeners, rfl⟩
  refine .bind_same call fun call => .bind_same _ fun ⟨answer, changed⟩ => .ok ?_
  dsimp only
  rw [contents, scripts]
  -- a bell may come or go before anyone is told
  have subscribed : ∀ bell content scripts, veil.sight
      ((left.setSource source { observed with content, scripts }).subscribe source (.bell bell)) =
        veil.sight ((right.setSource source { observed' with content, scripts }).subscribe source
          (.bell bell)) :=
    fun bell content scripts =>
      sight_subscribe (sight_setSource_congr same (looks content scripts)) source _
  cases changed with
  | none =>
    cases call with
    | subscribe bell script => exact subscribed bell _ _
    | unsubscribe bell => exact sight_unsubscribe same source _
    | _ => exact same
  | some content =>
    cases call with
    | subscribe bell script =>
      exact sight_notify (sight_setSource_congr (subscribed bell _ _) (looks _ _)) named
    | unsubscribe bell =>
      exact sight_notify (sight_setSource_congr (sight_unsubscribe same source _) (looks _ _)) named
    | _ => exact sight_notify (sight_setSource_congr same (looks _ _)) named

theorem afterFailure_alike (same : veil.sight left = veil.sight right) (kept : left.WellKept)
    (kept' : right.WellKept) {action : Action} (visible : veil.hides action = false) :
    veil.sight (left.afterFailure action) = veil.sight (right.afterFailure action) := by
  unfold afterFailure
  split
  · have alike := findSource_alike same kept kept' visible
    obtain ⟨_, failed, failed'⟩ | ⟨⟨source, observed, content⟩, ⟨source', observed', content'⟩,
      found, found', looks⟩ := alike.both
    · rw [failed, failed']
      exact same
    · simp only [Prod.mk.injEq] at looks
      obtain ⟨rfl, looks, rfl⟩ := looks
      rw [found, found']
      exact sight_setSource_congr same (source_withContent looks _)
  · exact same

section Alike

variable (covers : veil.Covers actions) (same : veil.sight left = veil.sight right)
  (orderly : Orderly actions left) (orderly' : Orderly actions right)

include covers same orderly orderly'

theorem findAttachable_outside {view : String} (source : Option String)
    (outside : veil.circle view = false) (given : ∀ name, source = some name →
      name ∈ sourcesOf actions view) :
    left.findAttachable source = right.findAttachable source :=
  findAttachable_eq same orderly.kept orderly'.kept fun name named =>
    covers.visible outside (given name named)

theorem defineView_alike {name serializer : String} {source : Option String}
    (known : name ≠ veil.origin) (among : Action.defineView name serializer source ∈ actions) :
    LookAlike veil.sight (left.defineView name serializer source)
      (right.defineView name serializer source) := by
  have next : left.views.next name = right.views.next name :=
    next_eq orderly.kept.views orderly'.kept.views fun handle its => by
      have seen := congrFun (congrArg Sight.views same) handle
      simpa only [sight, its, known, if_false] using seen
  -- the source makes no difference in sight if the view is in the circle
  have found : LookAlike (fun found => if veil.circle name then none else some found)
      (left.findAttachable source) (right.findAttachable source) := by
    cases inside : veil.circle name with
    | true => exact findAttachable_alike same orderly.kept orderly'.kept source none
    | false =>
      rw [findAttachable_outside covers same orderly orderly' source inside fun given its =>
        List.mem_flatMap.mpr ⟨_, among, by simp [Action.sourcesFor, its]⟩]
      exact .refl _
  refine found.bind fun found found' agree => ?_
  refine (find_presenter same orderly.kept orderly'.kept serializer).bind ?_
  rintro ⟨presenter, _⟩ ⟨presenter', _⟩ looks
  simp only [Prod.mk.injEq] at looks
  obtain ⟨rfl, _⟩ := looks
  have added : veil.sight (left.setView (right.views.next name) { presenter }) =
      veil.sight (right.setView (right.views.next name) { presenter }) := by
    rw [sight_setView, sight_setView, same]
  rw [orderly.forgiving, orderly'.forgiving, next]
  refine .ok ?_
  cases inside : veil.circle name with
  | true =>
    have named : veil.circle (right.views.next name).name = true := inside
    split <;> split <;> simp only [sight_attach_inside _ named, added]
  | false =>
    obtain rfl : found = found' := by simpa [inside] using agree
    split
    · exact sight_attach added _ _
    · exact added

theorem attempt_alike {action : Action} (among : action ∈ actions)
    (visible : veil.hides action = false) :
    LookAlike (fun answer => veil.sight answer.2) (left.attempt action) (right.attempt action) := by
  have configs : left.configs = right.configs := congrArg Sight.configs same
  cases action with
  | defineConfig name options =>
    refine .bind_same _ fun config => .ok ?_
    have next : left.configs.next name = right.configs.next name := by rw [configs]
    dsimp only
    rw [next]
    exact sight_putConfig same _ config
  | setConfig name option value =>
    have found : find left.configs name = find right.configs name := by rw [configs]
    unfold attempt
    dsimp only
    rw [found]
    exact .bind_same _ fun found => .ok (sight_setShared same found.1 option value)
  | defineSerializer name format config plan options =>
    exact (defineSerializer_alike same orderly.kept orderly'.kept name format config plan
      options).bind fun _ _ same => .ok same
  | setOption serializer option value =>
    exact (setOption_alike same orderly.kept orderly'.kept serializer option value).bind
      fun _ _ same => .ok same
  | defineSource name content =>
    have next : left.sources.next name = right.sources.next name :=
      next_eq orderly.kept.sources orderly'.kept.sources fun handle _ =>
        congrFun (congrArg Sight.sources same) handle
    refine .ok ?_
    dsimp only
    rw [next]
    exact sight_setSource_congr same rfl
  | setFaults name faults =>
    refine (findSource_alike same orderly.kept orderly'.kept visible).bind ?_
    rintro ⟨source, observed, content⟩ ⟨source', observed', content'⟩ looks
    simp only [Prod.mk.injEq] at looks
    obtain ⟨rfl, looks, rfl⟩ := looks
    exact .ok (sight_setSource_congr same (source_withContent looks _))
  | call name call => exact call_alike same orderly.kept orderly'.kept visible call
  | defineView name serializer source =>
    have known : name ≠ veil.origin := by simpa [hides] using visible
    exact (defineView_alike covers same orderly orderly' known among).bind fun _ _ same => .ok same
  | attach name source =>
    have found := find_view same orderly.kept orderly'.kept visible
    have shown := findAttachable_outside covers same orderly orderly' source visible
      fun given its => List.mem_flatMap.mpr ⟨_, among, by simp [Action.sourcesFor, its]⟩
    unfold attempt
    dsimp only
    rw [found, shown]
    exact .bind_same _ fun found => .bind_same _ fun source =>
      .ok (sight_attach same found.1 source)
  | setSerializer name serializer =>
    have found := find_view same orderly.kept orderly'.kept visible
    unfold attempt
    dsimp only
    rw [found]
    refine .bind_same _ fun found => ?_
    refine (find_presenter same orderly.kept orderly'.kept serializer).bind ?_
    rintro ⟨presenter, _⟩ ⟨presenter', _⟩ looks
    simp only [Prod.mk.injEq] at looks
    obtain ⟨rfl, _⟩ := looks
    exact .ok (sight_setPresenter same found.1 presenter)
  | request name =>
    have found := find_view same orderly.kept orderly'.kept visible
    unfold attempt
    dsimp only
    rw [found]
    exact .bind_same _ fun found => .ok (sight_requestUpdate same found.1)
  | render name | turn => exact .ok same
  | _ => cases visible

theorem sight_perform {action : Action} (among : action ∈ actions) :
    veil.sight (left.perform action).2 = veil.sight (right.perform action).2 := by
  cases hidden : veil.hides action with
  | true =>
    rw [sight_perform_hidden covers orderly hidden, sight_perform_hidden covers orderly' hidden,
      same]
  | false =>
    cases action with
    | turn => exact sight_turn covers same orderly orderly'
    | render name =>
      have found := find_view same orderly.kept orderly'.kept hidden
      unfold perform
      dsimp only
      rw [found]
      split
      · exact same
      · exact sight_render covers same orderly orderly' _
    | _ =>
      have alike := attempt_alike covers same orderly orderly' among hidden
      have failed := afterFailure_alike same orderly.kept orderly'.kept hidden
      unfold perform
      dsimp only
      obtain ⟨_, result, result'⟩ | ⟨_, _, result, result', seen⟩ := alike.both
      · rw [result, result']
        exact failed
      · rw [result, result']
        exact seen

end Alike

end Veil

end TreeTable

import Mathlib.Logic.Relation
import TreeTable.Proofs.Outcome
import TreeTable.Proofs.Dashboard.Kept

namespace TreeTable

def Action.isRender : Action → Bool
  | .render _ | .turn => true
  | _ => false

/-- The actions that leave the options of renders as they are, and the content of sources but for
changes that listeners are told of. A flat table is told of every change if its names are texts. -/
def Action.keepsSettings : Action → Bool
  | .setConfig .. | .setOption .. | .setFaults .. => false
  | .call _ (.ok (.setCell (.text _) (.text _) _)) => true
  | .call _ (.ok (.setCell ..)) => false
  | _ => true

def Action.isAside : Action → Bool
  | .countListeners _ | .sourceOf _ | .pageViews _ | .renderPage _ => true
  | .definePage .. | .setTitle .. | .addToPage .. | .clearPage _ => true
  | _ => false

namespace Dashboard

/-- The moves. Those that change the options of renders, or a content without telling anyone, are
loose: a steady dashboard makes none of them. -/
inductive Move (steady : Prop) (board : Dashboard) : Dashboard → Prop
  | aside (pages log) : Move steady board { board with pages, log }
  | addConfig (name config) : Move steady board
      { board with configs := board.configs.put (board.configs.next name) config }
  | setConfig (loose : ¬ steady) (handle config)
      (known : (board.configs.value? handle).isSome) : Move steady board
      { board with configs := board.configs.put handle config }
  | addPresenter (name) (presenter : Presenter)
      (configured : ∀ config, presenter.config = .shared config →
        (board.configs.value? config).isSome) : Move steady board
      { board with presenters := board.presenters.put (board.presenters.next name) presenter }
  | setPresenter (loose : ¬ steady) (handle) (presenter : Presenter)
      (known : (board.presenters.value? handle).isSome)
      (configured : ∀ config, presenter.config = .shared config →
        (board.configs.value? config).isSome) : Move steady board
      { board with presenters := board.presenters.put handle presenter }
  | addSource (name content) : Move steady board
      (board.setSource (board.sources.next name) { content })
  | setContent (loose : ¬ steady) (source observed content)
      (known : board.sources.value? source = some observed) : Move steady board
      (board.setSource source { observed with content })
  | setScripts (source observed scripts)
      (known : board.sources.value? source = some observed) : Move steady board
      (board.setSource source { observed with scripts })
  | subscribe (source bell) : Move steady board (board.subscribe source (.bell bell))
  | unsubscribe (source bell) : Move steady board (board.unsubscribe source (.bell bell))
  | change (source observed content) (known : board.sources.value? source = some observed) :
      Move steady board ((board.setSource source { observed with content }).notify source)
  | addView (name presenter) (known : (board.presenters.value? presenter).isSome) :
      Move steady board (board.setView (board.views.next name) { presenter })
  | attach (view source) (known : ∀ handle, source = some handle →
        (board.sources.value? handle).isSome) : Move steady board (board.attach view source)
  | present (view presenter) (known : (board.presenters.value? presenter).isSome) :
      Move steady board (Dashboard.setPresenter board view presenter)
  | request (view) : Move steady board (board.requestUpdate view)

abbrev Moves (steady : Prop) : Dashboard → Dashboard → Prop := Relation.ReflTransGen (Move steady)

variable {board after : Dashboard} {steady : Prop}

theorem Move.wellKept (move : Move steady board after) (kept : board.WellKept) :
    after.WellKept := by
  cases move with
  | aside pages log => exact kept.of_stores rfl rfl rfl rfl
  | addConfig name config => exact kept.putConfig (kept.configs.put_next name config)
  | setConfig _ handle config known => exact kept.putConfig (kept.configs.put_known known config)
  | addPresenter name presenter configured =>
    exact kept.putPresenter (kept.presenters.put_next name presenter) configured
  | setPresenter _ handle presenter known configured =>
    exact kept.putPresenter (kept.presenters.put_known known presenter) configured
  | addSource name content => exact kept.setSource (kept.sources.put_next name _)
  | setContent _ source observed content known | setScripts source observed scripts known =>
    exact kept.setSource (kept.sources.put_known (by simp [known]) _)
  | subscribe source bell => exact kept.subscribe source _
  | unsubscribe source bell => exact kept.unsubscribe source _
  | change source observed content known =>
    exact (kept.setSource (kept.sources.put_known (by simp [known]) _)).notify source
  | addView name presenter known =>
    exact kept.setView (kept.views.put_next name _) known (by simp)
  | attach view source known => exact kept.attach view known
  | present view presenter known => exact kept.setPresenter view known
  | request view => exact kept.requestUpdate view

theorem Moves.induction {P : Dashboard → Prop} (moves : Moves steady board after)
    (kept : board.WellKept) (holds : P board)
    (keep : ∀ before after, before.WellKept → Move steady before after → P before → P after) :
    P after := by
  have both : after.WellKept ∧ P after := by
    induction moves with
    | refl => exact ⟨kept, holds⟩
    | tail _ move ih => exact ⟨move.wellKept ih.1, keep _ _ ih.1 move ih.2⟩
  exact both.2

theorem Moves.wellKept (moves : Moves steady board after) (kept : board.WellKept) :
    after.WellKept :=
  moves.induction kept kept fun _ _ kept move _ => move.wellKept kept

theorem find_eq_ok {α : Type} {store : Store α} {name : String} {handle : Handle} {object : α}
    (found : find store name = .ok (handle, object)) : store.value? handle = some object := by
  unfold find at found
  split at found
  · contradiction
  · split at found
    · contradiction
    · rename_i kept
      cases found
      exact kept

theorem latest?_of_find {α : Type} {store : Store α} {name : String} {handle : Handle} {object : α}
    (found : find store name = .ok (handle, object)) : store.latest? name = some handle := by
  unfold find at found
  split at found
  · contradiction
  · rename_i latest
    split at found
    · contradiction
    · cases found
      exact latest

theorem name_of_find {α : Type} {store : Store α} {name : String} {handle : Handle} {object : α}
    (found : find store name = .ok (handle, object)) : handle.name = name :=
  Store.name_of_latest? (latest?_of_find found)

theorem latest?_of_not_found {α : Type} {store : Store α} (numbered : store.Numbered)
    {name : String} {failure : Failure} (missing : find store name = .error failure) :
    store.latest? name = none := by
  unfold find at missing
  split at missing
  · assumption
  · rename_i handle latest
    have stored := numbered.isSome_of_latest? latest
    split at missing
    · simp_all
    · contradiction

theorem findOptional_eq_ok {α : Type} {store : Store α} {name : Option String}
    {handle : Handle} (found : findOptional store name = .ok (some handle)) :
    (store.value? handle).isSome := by
  cases name with
  | none => cases found
  | some name =>
    simp only [findOptional, bind_eq_ok, pure_eq_ok] at found
    obtain ⟨⟨_, object⟩, kept, same⟩ := found
    cases same
    simp [find_eq_ok kept]

theorem findSource_eq_ok {name : String} {source : Handle} {observed : Observed}
    {content : Content} (found : board.findSource name = .ok (source, observed, content)) :
    board.sources.value? source = some observed ∧ observed.content = some content := by
  simp only [findSource, bind_eq_ok] at found
  obtain ⟨⟨handle, object⟩, kept, rest⟩ := found
  cases held : object.content with
  | none => simp [held] at rest
  | some content =>
    simp only [held, pure_eq_ok] at rest
    cases rest
    exact ⟨find_eq_ok kept, held⟩

theorem findAttachable_eq_ok {name : Option String} {source : Handle}
    (found : board.findAttachable name = .ok (some source)) :
    (board.sources.value? source).isSome := by
  cases name with
  | none => cases found
  | some name =>
    simp only [findAttachable, bind_eq_ok, pure_eq_ok] at found
    obtain ⟨⟨handle, object⟩, kept, same⟩ := found
    split at same
    · cases same
      simp [find_eq_ok kept]
    · contradiction

theorem afterFailure_eq {content : Content} {call : Call} {name : String} {failure : Failure}
    (keeps : (Action.call name (.ok call)).keepsSettings)
    (failed : content.perform call = .error failure) : content.afterFailure call = content := by
  cases content with
  | tree data faults => cases call <;> rfl
  | matrix data =>
    cases call with
    | setCell row column value =>
      cases row <;> cases column <;> simp only [Action.keepsSettings, Bool.false_eq_true] at keeps
      -- texts are names that a text can be kept under, so setting the cell does not fail
      simp [Content.perform, Matrix.set, Value.canBeKey, bind, Except.bind, pure, Except.pure]
        at failed
    | _ => rfl

theorem defineSerializer_move {name : String} {format : Value}
    {config : Option String} {plan : Except Failure DelegatePlan}
    {options : List (String × Value)}
    (done : board.defineSerializer name format config plan options = .ok after) :
    Move steady board after := by
  simp only [defineSerializer, bind_eq_ok, pure_eq_ok] at done
  obtain ⟨shared, found, plan, _, serializer, _, rfl⟩ := done
  refine .addPresenter _ _ ?_
  intro handle refers
  cases shared with
  | none => simp at refers
  | some config =>
    dsimp only at refers
    split at refers
    · cases refers
      exact findOptional_eq_ok found
    · contradiction

theorem setOption_move (kept : board.WellKept) (loose : ¬ steady) {serializer option : String}
    {value : Value} (done : board.setOption serializer option value = .ok after) :
    Move steady board after := by
  simp only [setOption, bind_eq_ok] at done
  obtain ⟨⟨handle, presenter⟩, found, done⟩ := done
  have known := find_eq_ok found
  cases refers : presenter.config with
  | shared config =>
    simp only [refers, pure_eq_ok] at done
    subst done
    exact .setConfig loose _ _ (kept.configured _ _ _ known refers)
  | own config =>
    simp only [refers, pure_eq_ok] at done
    subst done
    exact .setPresenter loose _ _ (by simp [known]) (by simp)

theorem defineView_moves {name serializer : String}
    {source : Option String} (done : board.defineView name serializer source = .ok after) :
    Moves steady board after := by
  simp only [defineView, bind_eq_ok] at done
  obtain ⟨source, attachable, ⟨presenter, object⟩, found, done⟩ := done
  have known : (board.presenters.value? presenter).isSome := by simp [find_eq_ok found]
  have added : Move steady board (board.setView (board.views.next name) { presenter }) :=
    .addView name presenter known
  split at done
  · contradiction
  · simp only [pure_eq_ok] at done
    cases source with
    | none =>
      subst done
      exact .single added
    | some source =>
      rw [Option.isSome_some, if_pos rfl] at done
      subst done
      refine .tail (.single added) (.attach _ _ ?_)
      rintro handle ⟨⟩
      exact findAttachable_eq_ok attachable

theorem call_moves {name : String} {call : Except Failure Call} {reply : Reply}
    (done : board.call name call = .ok (reply, after)) : Moves steady board after := by
  simp only [Dashboard.call, bind_eq_ok, pure_eq_ok, Prod.mk.injEq] at done
  obtain ⟨⟨source, observed, content⟩, found, call, _, ⟨answer, changed⟩, performed, _, done⟩ :=
    done
  have known := (findSource_eq_ok found).1
  cases changed with
  | none =>
    cases call with
    | subscribe bell script =>
      subst done
      exact .tail (.single (.setScripts source observed _ known)) (.subscribe source bell)
    | unsubscribe bell =>
      subst done
      exact .single (.unsubscribe source bell)
    | _ =>
      subst done
      exact .refl
  | some next =>
    cases call with
    | subscribe | unsubscribe =>
      cases content <;> simp [Content.perform] at performed
    | _ =>
      subst done
      exact .single (.change source observed _ known)

theorem attempt_aside {action : Action} (aside : action.isAside = true) {reply : Reply}
    (done : board.attempt action = .ok (reply, after)) : ∃ pages, after = { board with pages } := by
  cases action with
  | sourceOf name =>
    simp only [attempt] at done
    split at done
    · simp only [pure_eq_ok, Prod.mk.injEq] at done
      exact ⟨_, done.2.symm⟩
    · simp only [bind_eq_ok, pure_eq_ok, Prod.mk.injEq] at done
      obtain ⟨_, _, _, rfl⟩ := done
      exact ⟨_, rfl⟩
  | setTitle name title | clearPage name =>
    simp only [attempt, updatePage, bind_eq_ok, pure_eq_ok, Prod.mk.injEq] at done
    obtain ⟨_, ⟨_, _, rfl⟩, _, rfl⟩ := done
    exact ⟨_, rfl⟩
  | addToPage name view =>
    simp only [attempt, updatePage, bind_eq_ok, pure_eq_ok, Prod.mk.injEq] at done
    obtain ⟨_, _, _, _, _, ⟨_, _, rfl⟩, _, rfl⟩ := done
    exact ⟨_, rfl⟩
  | renderPage name =>
    simp only [attempt, bind_eq_ok, pure_eq_ok, Prod.mk.injEq] at done
    obtain ⟨_, _, _, _, _, rfl⟩ := done
    exact ⟨_, rfl⟩
  | countListeners | definePage | pageViews =>
    simp only [attempt, bind_eq_ok, pure_eq_ok, Prod.mk.injEq] at done
    obtain ⟨_, _, _, rfl⟩ := done
    exact ⟨_, rfl⟩
  | _ => cases aside

theorem attempt_moves (kept : board.WellKept) {action : Action} {reply : Reply}
    (done : board.attempt action = .ok (reply, after)) :
    Moves (action.keepsSettings = true) board after := by
  cases action with
  | defineConfig name options =>
    simp only [attempt, bind_eq_ok, pure_eq_ok, Prod.mk.injEq] at done
    obtain ⟨config, _, _, rfl⟩ := done
    exact .single (.addConfig name config)
  | setConfig name option value =>
    simp only [attempt, bind_eq_ok, pure_eq_ok, Prod.mk.injEq] at done
    obtain ⟨⟨handle, config⟩, found, _, rfl⟩ := done
    have known := find_eq_ok found
    exact .single (.setConfig (by simp [Action.keepsSettings]) handle _ (by simp [known]))
  | defineSerializer name format config plan options =>
    simp only [attempt, bind_eq_ok, pure_eq_ok, Prod.mk.injEq] at done
    obtain ⟨next, defined, _, rfl⟩ := done
    exact .single (defineSerializer_move defined)
  | setOption serializer option value =>
    simp only [attempt, bind_eq_ok, pure_eq_ok, Prod.mk.injEq] at done
    obtain ⟨next, set, _, rfl⟩ := done
    exact .single (setOption_move kept (by simp [Action.keepsSettings]) set)
  | defineSource name content =>
    simp only [attempt, Except.ok.injEq, Prod.mk.injEq] at done
    obtain ⟨_, rfl⟩ := done
    exact .single (.addSource name content)
  | setFaults name faults =>
    simp only [attempt, bind_eq_ok, pure_eq_ok, Prod.mk.injEq] at done
    obtain ⟨⟨source, observed, content⟩, found, _, rfl⟩ := done
    exact .single (.setContent (by simp [Action.keepsSettings]) source observed _
      (findSource_eq_ok found).1)
  | call name call => exact call_moves done
  | defineView name serializer source =>
    simp only [attempt, bind_eq_ok, pure_eq_ok, Prod.mk.injEq] at done
    obtain ⟨next, defined, _, rfl⟩ := done
    exact defineView_moves defined
  | attach name source =>
    simp only [attempt, bind_eq_ok, pure_eq_ok, Prod.mk.injEq] at done
    obtain ⟨⟨view, state⟩, found, source, attachable, _, rfl⟩ := done
    refine .single (.attach view source ?_)
    rintro handle rfl
    exact findAttachable_eq_ok attachable
  | setSerializer name serializer =>
    simp only [attempt, bind_eq_ok, pure_eq_ok, Prod.mk.injEq] at done
    obtain ⟨⟨view, state⟩, found, ⟨presenter, object⟩, chosen, _, rfl⟩ := done
    exact .single (.present view presenter (by simp [find_eq_ok chosen]))
  | request name =>
    simp only [attempt, bind_eq_ok, pure_eq_ok, Prod.mk.injEq] at done
    obtain ⟨⟨view, state⟩, found, _, rfl⟩ := done
    exact .single (.request view)
  | render name | turn =>
    simp only [attempt, Except.ok.injEq, Prod.mk.injEq] at done
    obtain ⟨_, rfl⟩ := done
    exact .refl
  | _ =>
    obtain ⟨pages, rfl⟩ := attempt_aside rfl done
    exact .single (.aside pages board.log)

theorem afterFailure_moves {action : Action} {failure : Failure}
    (failed : board.attempt action = .error failure) :
    Moves (action.keepsSettings = true) board (board.afterFailure action) := by
  cases action with
  | call name call =>
    cases call with
    | error _ => exact .refl
    | ok call =>
      simp only [afterFailure]
      split
      · exact .refl
      · rename_i source observed content found
        obtain ⟨known, held⟩ := findSource_eq_ok found
        by_cases keeps : (Action.call name (.ok call)).keepsSettings = true
        · cases outcome : content.perform call with
          | ok answer =>
            simp [attempt, Dashboard.call, found, outcome, bind, Except.bind, pure, Except.pure]
              at failed
          | error failure =>
            rw [afterFailure_eq keeps outcome, ← held]
            exact .single (.setScripts source observed observed.scripts known)
        · exact .single (.setContent keeps source observed _ known)
  | _ => exact .refl

theorem perform_moves (kept : board.WellKept) {action : Action} (quiet : action.isRender = false) :
    Moves (action.keepsSettings = true) board (board.perform action).2 := by
  cases action with
  | render name | turn => contradiction
  | _ =>
    unfold perform
    dsimp only
    split
    · rename_i result
      exact attempt_moves kept result
    · rename_i result
      exact afterFailure_moves result

inductive Performed (board : Dashboard) : Action → Dashboard → Prop
  | moves {action after} (quiet : action.isRender = false)
      (moves : Moves (action.keepsSettings = true) board after) : Performed board action after
  | turn : Performed board .turn board.turn.2
  | missing (name) (missing : board.views.latest? name = none) :
      Performed board (.render name) board
  | render (name view) (latest : board.views.latest? name = some view) :
      Performed board (.render name) (board.render view).2

theorem performed (kept : board.WellKept) (action : Action) :
    Performed board action (board.perform action).2 := by
  cases rendering : action.isRender with
  | false => exact .moves rendering (perform_moves kept rendering)
  | true =>
    cases action with
    | turn => exact .turn
    | render name =>
      unfold perform
      dsimp only
      split
      · rename_i failure missing
        exact .missing name (latest?_of_not_found kept.views missing)
      · rename_i view state found
        exact .render name view (latest?_of_find found)
    | _ => contradiction

theorem Performed.wellKept {action : Action} (done : Performed board action after)
    (kept : board.WellKept) : after.WellKept := by
  cases done with
  | moves _ moves => exact Moves.wellKept moves kept
  | turn => exact kept.turn
  | missing => exact kept
  | render name view => exact kept.render view

end Dashboard

end TreeTable

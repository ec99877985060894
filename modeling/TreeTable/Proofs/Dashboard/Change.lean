import TreeTable.Proofs.Dashboard.Currency
import TreeTable.Proofs.Edit

namespace TreeTable

theorem Entries.put_value?_self {κ α : Type} [BEq κ] [LawfulBEq κ] {entries : Entries κ α} {key : κ}
    {value : α} (known : value? entries key = some value) : put entries key value = entries := by
  induction entries with
  | nil => cases known
  | cons entry rest ih =>
    obtain ⟨other, old⟩ := entry
    simp only [value?] at known
    by_cases same : (other == key) = true
    · rw [if_pos same] at known
      cases known
      rw [put, if_pos same]
    · rw [if_neg same] at known
      rw [put, if_neg same, ih known]

namespace Dashboard

variable {board : Dashboard}

theorem setSource_known {source : Handle} {observed : Observed}
    (known : board.sources.value? source = some observed) :
    board.setSource source observed = board := by
  rw [setSource, Entries.put_value?_self known]

def notifyAs (reaction : Handle → Dashboard → Listener → Dashboard) (board : Dashboard)
    (source : Handle) : Dashboard :=
  match board.sources.value? source with
  | none => board
  | some observed => observed.listeners.foldl (reaction source) board

/-- Give a source a call, where a listener that is told of a change may do anything. -/
def callAs (reaction : Handle → Dashboard → Listener → Dashboard) (board : Dashboard)
    (name : String) (call : Call) : Except Failure Reply × Dashboard :=
  match board.findSource name with
  | .error failure => (.error failure, board)
  | .ok (source, observed, content) =>
    let left content := board.setSource source { observed with content := some content }
    match content.perform call with
    | .error failure => (.error failure, left (content.afterFailure call))
    | .ok (reply, none) => (.ok reply, board)
    | .ok (reply, some content) => (.ok reply, notifyAs reaction (left content) source)

theorem perform_call_eq {call : Call} (edits : call.editsTree) (name : String) :
    board.perform (.call name (.ok call)) = board.callAs tell name call := by
  have attempted : board.attempt (.call name (.ok call)) = board.call name (.ok call) := rfl
  simp only [perform, attempted, Dashboard.call, callAs, afterFailure]
  cases board.findSource name with
  | error failure => rfl
  | ok found =>
    obtain ⟨source, observed, content⟩ := found
    simp only [ok_bind]
    cases content.perform call with
    | error failure => rfl
    | ok answer =>
      obtain ⟨reply, changed⟩ := answer
      cases call with
      | appendRow | removeRow | setValue | setHeaders | clear => cases changed <;> rfl
      | _ => cases edits

def Listener.bell? : Listener → Option String
  | .view _ => none
  | .bell name => some name

theorem rung_follow (source : Handle) (board : Dashboard) (line : Bool × String) :
    (follow source board line).rung = board.rung := by
  unfold follow
  split <;> rfl

theorem rung_tell (source : Handle) (board : Dashboard) (listener : Listener) :
    (tell source board listener).rung.toList =
      board.rung.toList ++ (Listener.bell? listener).toList := by
  cases listener with
  | view view =>
    obtain ⟨_, _, _, requested⟩ := requestUpdate_frame board view
    simp [tell, requested, Listener.bell?]
  | bell name =>
    have follows : ∀ (script : List (Bool × String)) (before : Dashboard),
        (script.foldl (follow source) before).rung = before.rung := by
      intro script
      induction script with
      | nil => exact fun _ => rfl
      | cons line rest ih =>
        intro before
        rw [List.foldl_cons, ih, rung_follow]
    rw [tell, follows]
    exact Array.toList_push

theorem rung_tellAll (source : Handle) (listeners : List Listener) (board : Dashboard) :
    (listeners.foldl (tell source) board).rung.toList =
      board.rung.toList ++ listeners.filterMap Listener.bell? := by
  induction listeners generalizing board with
  | nil => simp
  | cons listener rest ih =>
    rw [List.foldl_cons, ih, rung_tell, List.filterMap_cons]
    cases Listener.bell? listener <;> simp

theorem contentOf_relisten (board : Dashboard) (source other : Handle)
    (change : Array Listener → Array Listener) :
    (board.relisten other change).contentOf (some source) = board.contentOf (some source) := by
  simp only [contentOf_some, contentAt, relisten, Entries.value?_alter, Option.map_map]
  cases board.sources.value? source with
  | none => rfl
  | some observed => by_cases same : source = other <;> simp [same]

theorem contentOf_tellAll (source : Handle) (listeners : List Listener) (board : Dashboard) :
    (listeners.foldl (tell source) board).contentOf (some source) =
      board.contentOf (some source) := by
  let Holds (after : Dashboard) := after.contentOf (some source) = board.contentOf (some source)
  have request : ∀ after view, Holds after → Holds (after.requestUpdate view) := by
    intro after view holds
    obtain ⟨_, _, _, requested⟩ := requestUpdate_frame after view
    rw [requested]
    exact holds
  have subscribe : ∀ after other bell, Holds after → Holds (after.subscribe other (.bell bell)) :=
    fun after other _ holds => (contentOf_relisten after source other _).trans holds
  have unsubscribe : ∀ after other bell, Holds after →
      Holds (after.unsubscribe other (.bell bell)) :=
    fun after other _ holds => (contentOf_relisten after source other _).trans holds
  exact tellAll_induction source request subscribe unsubscribe (fun _ _ holds => holds) listeners
    board rfl

/-- A call that would change a tree either fails, and then everything is as it was and nobody has
been told; or it has made the change that it stands for, and then each listener has been told of it
once for each of its subscriptions, whatever listeners do. It fails only where there is no such
change. Bells ring and views are asked for renders when the tree holds what it has become. A cell
that is given a value shows it, cells that come with it are empty, and all others show what they
showed. -/
theorem edited_and_told_or_untouched {name : String} {source : Handle} {observed : Observed}
    {tree : Tree} (found : board.findSource name = .ok (source, observed, .tree tree none))
    {call : Call} (edits : call.editsTree) :
    board.perform (.call name (.ok call)) = board.callAs tell name call ∧
    ((∀ reply after, ¬ tree.Edited call reply after) ∧
      (∃ failure, ∀ reaction, board.callAs reaction name call = (.error failure, board)) ∨
    ∃ reply after, tree.Edited call reply after ∧
      let listeners := observed.listeners.toList
      let changed :=
        board.setSource source { observed with content := some (.tree after none) }
      (∀ reaction, board.callAs reaction name call =
        (.ok reply, listeners.foldl (reaction source) changed)) ∧
      (∀ told later, listeners = told ++ later →
        (told.foldl (tell source) changed).contentOf (some source) = some (.tree after none)) ∧
      (listeners.foldl (tell source) changed).rung.toList =
        board.rung.toList ++ listeners.filterMap Listener.bell? ∧
      ∀ path column value number, call = .setValue path column value →
        column.asIndex = .ok number → 0 ≤ number →
        ∃ location item, tree.locate false path = .ok location ∧
          Tree.rowAt location tree.items = some item ∧
          tree.ShowsAssigned after location item.values.size number.toNat value) := by
  refine ⟨perform_call_eq edits name, ?_⟩
  obtain ⟨known, held⟩ := findSource_eq_ok found
  cases performed : (Content.tree tree none).perform call with
  | error failure =>
    refine .inl ⟨fun reply after edited => ?_, failure, fun reaction => ?_⟩
    · -- a call that stands for a change does not fail
      obtain ⟨answer, comes⟩ := Tree.perform_comes edited
      rw [performed] at comes
      cases comes
    · have kept : (Content.tree tree none).afterFailure call = .tree tree none := by
        cases call <;> rfl
      have same : board.setSource source { observed with content := some (.tree tree none) } =
          board := by
        rw [← held]
        exact setSource_known known
      simp only [callAs, found, performed, kept, same]
  | ok answer =>
    obtain ⟨reply, changed⟩ := answer
    obtain ⟨after, rfl, edited⟩ := Tree.edited_of_perform edits performed
    refine .inr ⟨reply, after, edited, fun reaction => ?_, fun told later _ => ?_, ?_, ?_⟩
    · simp only [callAs, found, performed, notifyAs, setSource, Entries.value?_put_self,
        Array.foldl_toList]
    · rw [contentOf_tellAll]
      simp [contentOf, setSource]
    · exact rung_tellAll source _ _
    · rintro path column value number rfl counts front
      cases edited with
      | @assigned _ _ _ location number' index item _ _ leads counts' stood placed took stands
          elsewhere =>
        obtain rfl := Except.ok.inj (counts'.symm.trans counts)
        obtain ⟨-, rfl⟩ : number' < item.values.size + Tree.mostNewColumns ∧
            number'.toNat = index := by
          simpa [Tree.column?, front] using placed
        exact ⟨location, item, leads, stood, Tree.showsAssigned stood took stands elsewhere⟩

def belled : Dashboard :=
  ({} : Dashboard).setSource ⟨"rows", 0⟩
    { content := some (.tree { items := [⟨#[.text "a"], [], []⟩] } none)
      listeners := #[.bell "door", .bell "gate", .bell "door"] }

theorem rings_when_belled :
    ∃ after tree, belled.perform
        (.call "rows" (.ok (.setValue [.int (-1)] (.int 2) (.text "x")))) = (.ok .done, after) ∧
      after.rung.toList = ["door", "gate", "door"] ∧
      after.contentOf (some ⟨"rows", 0⟩) = some (.tree tree none) ∧
      (Content.tree tree none).textOf [] (.int 0) (.int 0) none = .ok (some "a") ∧
      (Content.tree tree none).textOf [] (.int 0) (.int 1) none = .ok (some "") ∧
      (Content.tree tree none).textOf [] (.int 0) (.int 2) none = .ok (some "x") := by
  let call := Call.setValue [.int (-1)] (.int 2) (.text "x")
  have found : belled.findSource "rows" = .ok (⟨"rows", 0⟩, _, .tree _ none) := rfl
  have edits : call.editsTree := rfl
  have succeeds : (belled.perform (.call "rows" (.ok call))).1 = .ok .done := rfl
  obtain ⟨performed, ⟨-, failure, failed⟩ | ⟨reply, tree, edited, told, holds, rung, shows⟩⟩ :=
    edited_and_told_or_untouched found edits
  · rw [performed, failed tell] at succeeds
    cases succeeds
  · obtain ⟨location, item, leads, stood, shown⟩ := shows _ _ _ 2 rfl rfl (by decide)
    obtain rfl : [0] = location := Except.ok.inj leads
    obtain rfl := Option.some.inj stood
    rw [performed, told tell] at succeeds
    obtain rfl := Except.ok.inj succeeds
    refine ⟨_, tree, performed.trans (told tell), rung, holds _ [] (List.append_nil _).symm, ?_,
      ?_, ?_⟩
    · exact shown.keeps [] (.int 0) 0 none (.inr (by decide))
    · exact shown.fills [] (.int 0) 1 rfl (by decide) (by decide)
    · exact shown.reads [] (.int 0) rfl

end Dashboard

end TreeTable

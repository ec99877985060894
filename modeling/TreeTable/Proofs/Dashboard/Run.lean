import TreeTable.Proofs.Dashboard.Move
import TreeTable.Proofs.Dashboard.Turn

namespace TreeTable.Dashboard

variable {board after : Dashboard} {steady : Prop}

def start : Dashboard := { loop := .forgiving }

def run (board : Dashboard) : List Action → Dashboard
  | [] => board
  | action :: rest => run (board.perform action).2 rest

theorem wellKept_empty (loop : Loop) : WellKept { loop } where
  configs := Store.numbered_nil
  presenters := Store.numbered_nil
  sources := Store.numbered_nil
  views := Store.numbered_nil
  configured := fun _ _ _ stored => by cases stored
  presented := fun _ _ stored => by cases stored
  attached := fun _ _ _ stored => by cases stored

theorem wellKept_start : start.WellKept := wellKept_empty .forgiving

theorem requestUpdate_loop (board : Dashboard) (view : Handle) :
    (board.requestUpdate view).loop = board.loop := by
  obtain ⟨_, _, _, result⟩ := requestUpdate_frame board view
  rw [result]

theorem notify_loop (board : Dashboard) (source : Handle) :
    (board.notify source).loop = board.loop :=
  notify_induction (P := fun after => after.loop = board.loop) source rfl
    (fun _ view same => (requestUpdate_loop _ view).trans same)
    (fun _ _ _ same => same) (fun _ _ _ same => same) (fun _ _ same => same)

theorem attach_loop (board : Dashboard) (view : Handle) (source : Option Handle) :
    (board.attach view source).loop = board.loop := by
  obtain ⟨_, _, _, _, result⟩ := attach_frame board view source
  rw [result]

theorem setPresenter_loop (board : Dashboard) (view presenter : Handle) :
    (setPresenter board view presenter).loop = board.loop := by
  obtain ⟨_, _, _, result⟩ := setPresenter_frame board view presenter
  rw [result]

theorem Move.loop (move : Move steady board after) : after.loop = board.loop := by
  cases move with
  | change source observed content known => exact notify_loop _ source
  | attach view source known => exact attach_loop board view source
  | present view presenter known => exact setPresenter_loop board view presenter
  | request view => exact requestUpdate_loop board view
  | _ => rfl

theorem Performed.loop {action : Action} (done : Performed board action after)
    (kept : board.WellKept) : after.loop = board.loop := by
  cases done with
  | moves _ moves =>
    exact moves.induction (P := fun after => after.loop = board.loop) kept rfl
      fun _ _ _ move same => move.loop.trans same
  | turn => exact runAll_loop board.queue _
  | missing => rfl
  | render name view => exact render_loop board view

theorem run_keeps {P : Dashboard → Prop} (actions : List Action) (kept : board.WellKept)
    (holds : P board)
    (keep : ∀ (board : Dashboard) action after, action ∈ actions → board.WellKept →
      Performed board action after → P board → P after) :
    (board.run actions).WellKept ∧ P (board.run actions) := by
  induction actions generalizing board with
  | nil => exact ⟨kept, holds⟩
  | cons action rest ih =>
    have done := performed kept action
    refine ih (done.wellKept kept) ?_ ?_
    · exact keep board action _ List.mem_cons_self kept done holds
    · intro before other after member
      exact keep before other after (List.mem_cons_of_mem _ member)

theorem run_induction {P : Dashboard → Prop} (actions : List Action) (kept : board.WellKept)
    (forgiving : board.loop = .forgiving) (holds : P board)
    (keep : ∀ (board : Dashboard) action after, action ∈ actions → board.WellKept →
      board.loop = .forgiving → Performed board action after → P board → P after) :
    (board.run actions).WellKept ∧ (board.run actions).loop = .forgiving ∧
      P (board.run actions) := by
  refine run_keeps (P := fun board => board.loop = .forgiving ∧ P board) actions kept
    ⟨forgiving, holds⟩ ?_
  intro board action after member kept done ⟨forgiving, holds⟩
  exact ⟨(done.loop kept).trans forgiving, keep board action after member kept forgiving done holds⟩

end TreeTable.Dashboard

import TreeTable.Dashboard.State

/-!
How views are kept up to date. A change of a source requests a render of every view attached to it;
requests made before the render has begun come to one render; a render that begins clears its
request first, so that a request made meanwhile leads to another one.
-/

namespace TreeTable.Dashboard

def note (board : Dashboard) (notice : Notice) : Dashboard :=
  { board with log := board.log ++ [notice] }

def setView (board : Dashboard) (view : Handle) (state : View) : Dashboard :=
  { board with views := board.views.put view state }

def setSource (board : Dashboard) (source : Handle) (observed : Observed) : Dashboard :=
  { board with sources := board.sources.put source observed }

def titleOf (board : Dashboard) (presenter : Handle) : String :=
  ((board.presenters.value? presenter).map fun found => found.format.title).getD ""

/-- Queue a render of the view, unless one is waiting that has been requested. The loop is taken to be
open: nothing fails when it is given a render. -/
def requestUpdate (board : Dashboard) (view : Handle) : Dashboard :=
  match board.views.value? view with
  | none => board
  | some state =>
    if state.pending then board
    else
      { board.setView view { state with pending := true } with queue := board.queue ++ [view] }.note
        (.scheduled (board.titleOf state.presenter))

def relisten (board : Dashboard) (source : Handle) (change : Array Listener → Array Listener) :
    Dashboard :=
  { board with sources := board.sources.alter source fun observed =>
      { observed with listeners := change observed.listeners } }

def subscribe (board : Dashboard) (source : Handle) (listener : Listener) : Dashboard :=
  board.relisten source (·.push listener)

def unsubscribe (board : Dashboard) (source : Handle) (listener : Listener) : Dashboard :=
  board.relisten source (·.erase listener)

def follow (source : Handle) (board : Dashboard) (line : Bool × String) : Dashboard :=
  if line.1 then board.subscribe source (.bell line.2)
  else board.unsubscribe source (.bell line.2)

def tell (source : Handle) (board : Dashboard) : Listener → Dashboard
  | .view view => board.requestUpdate view
  | .bell name =>
    let board := { board with rung := board.rung.push name }
    let script := ((board.sources.value? source).bind fun observed =>
      observed.scripts.value? name).getD []
    script.foldl (follow source) board

def notify (board : Dashboard) (source : Handle) : Dashboard :=
  match board.sources.value? source with
  | none => board
  | some observed => observed.listeners.foldl (tell source) board

def contentOf (board : Dashboard) (source : Option Handle) : Option Content := do
  (← board.sources.value? (← source)).content

def leave (board : Dashboard) (view : Handle) : (source : Option Handle) → Dashboard
  | none => board
  | some source => board.unsubscribe source (.view view)

def listen (board : Dashboard) (view : Handle) : (source : Option Handle) → Dashboard
  | none => board
  | some source => board.subscribe source (.view view)

/-- Show another source, or none. The view leaves the source that it showed, requests a render and
only then listens to the new one. -/
def attach (board : Dashboard) (view : Handle) (source : Option Handle) : Dashboard :=
  match board.views.value? view with
  | none => board
  | some state =>
    let board := (board.leave view state.source).setView view { state with source }
    let board := (board.requestUpdate view).listen view source
    board.note (.attached (board.contentOf source))

def setPresenter (board : Dashboard) (view presenter : Handle) : Dashboard :=
  match board.views.value? view with
  | none => board
  | some state => (board.setView view { state with presenter }).requestUpdate view

def configOf (board : Dashboard) (presenter : Presenter) : Config :=
  match presenter.config with
  | .own config => config
  | .shared config => (board.configs.value? config).getD {}

def serializerOf (board : Dashboard) (presenter : Presenter) : Serializer :=
  ⟨presenter.format, board.configOf presenter, presenter.delegate⟩

def publish (board : Dashboard) (view : Handle) (title : String) (outcome : Except Failure Value) :
    Except Failure Value × Dashboard :=
  match board.views.value? view with
  | none => (.error .noSuchField, board)
  | some state =>
    match outcome with
    | .ok text =>
      let board := board.setView view { state with text, renders := state.renders + 1 }
      match text.elements? with
      | some elements => (.ok text, board.note (.rendered elements.length title))
      | none => (.error .wrongType, board)
    | .error failure =>
      if failure.kind = .inconsistent then (.ok state.text, board.note (.failed title failure))
      else (.error failure, board)

/-- Why the delegate of a presenter does not give the cell text that so many came before, if it does
not: a view that it has to request an update of is not there. -/
def refusal (board : Dashboard) (presenter : Presenter) (number : Nat) : Option Failure := do
  let hook ← presenter.hook
  let missing ← (hook.wishesAt number).find? fun name => (board.views.latest? name).isNone
  return .raised .unknownKey missing

def reach (board : Dashboard) : List String → List Handle
  | [] => []
  | name :: rest =>
    match board.views.latest? name with
    | none => []
    | some view => view :: board.reach rest

def wanted (board : Dashboard) (presenter : Presenter) (asked : Nat) : List Handle :=
  match presenter.hook with
  | none => []
  | some hook => board.reach (hook.wishesFor asked)

def settleHook (board : Dashboard) (handle : Handle) (presenter : Presenter) (asked : Nat) :
    Dashboard :=
  let wanted := board.wanted presenter asked
  wanted.foldl requestUpdate
    { board with presenters := board.presenters.put handle (presenter.spend asked) }

def draw (board : Dashboard) (presenter : Presenter) (source : Option Handle) : Rendering :=
  (board.serializerOf presenter).serialize (board.contentOf source) (board.refusal presenter)

def lower (board : Dashboard) (view : Handle) : Dashboard :=
  match board.views.value? view with
  | none => board
  | some state => board.setView view { state with pending := false }

/-- Render a view now. The request is cleared before the source is read, and what the delegate
requests meanwhile counts as made after that. -/
def render (board : Dashboard) (view : Handle) : Except Failure Value × Dashboard :=
  match board.views.value? view with
  | none => (.error .noSuchField, board)
  | some state =>
    let board := board.lower view
    match board.presenters.value? state.presenter with
    | none => (.error .noSuchField, board)
    | some presenter =>
      let rendering := board.draw presenter state.source
      let board := board.settleHook state.presenter presenter rendering.asked
      let board := match rendering.capReached with
        | none => board
        | some cap => board.note (.capReached cap)
      board.publish view presenter.format.title rendering.outcome

def runAll : (batch : List Handle) → Dashboard → Except Failure Unit × Dashboard
  | [], board => (.ok (), board)
  | view :: rest, board =>
    match board.render view with
    | (.ok _, board) => runAll rest board
    | (.error failure, board) =>
      if board.loop = .forgiving then runAll rest board else (.error failure, board)

/-- A turn of the loop: the waiting renders run; renders requested meanwhile wait for the next
turn. -/
def turn (board : Dashboard) : Except Failure Unit × Dashboard :=
  runAll board.queue { board with queue := [] }

end TreeTable.Dashboard

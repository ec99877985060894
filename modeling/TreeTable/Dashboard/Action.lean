import TreeTable.Dashboard.Call
import TreeTable.Dashboard.Update

namespace TreeTable

structure DelegatePlan where
  delegate : Delegate := .plain
  hook : Option Hook := none

inductive Action where
  | defineConfig (name : String) (options : List (String × Value))
  | setConfig (name option : String) (value : Value)
  | defineSerializer (name : String) (format : Value) (config : Option String)
      (plan : Except Failure DelegatePlan) (options : List (String × Value))
  | setOption (serializer option : String) (value : Value)
  | defineSource (name : String) (content : Option Content)
  | setFaults (source : String) (faults : Faults)
  | call (source : String) (call : Except Failure Call)
  | countListeners (source : String)
  | defineView (name serializer : String) (source : Option String)
  | attach (view : String) (source : Option String)
  | setSerializer (view serializer : String)
  | request (view : String)
  | render (view : String)
  | sourceOf (view : String)
  | turn
  | definePage (name : String) (template : Option Value) (title : Value)
  | setTitle (page : String) (title : Value)
  | addToPage (page view : String)
  | clearPage (page : String)
  | pageViews (page : String)
  | renderPage (page : String)

namespace Dashboard

def find {α : Type} (store : Store α) (name : String) : Except Failure (Handle × α) :=
  match store.latest? name with
  | none => .error (.raised .unknownKey name)
  | some handle =>
    match store.value? handle with
    | none => .error (.raised .unknownKey name)
    | some object => .ok (handle, object)

def findOptional {α : Type} (store : Store α) : Option String → Except Failure (Option Handle)
  | none => .ok none
  | some name => do return some (← find store name).1

def findSource (board : Dashboard) (name : String) :
    Except Failure (Handle × Observed × Content) := do
  let (source, observed) ← find board.sources name
  match observed.content with
  | some content => return (source, observed, content)
  | none => throw .noSuchField

def findAttachable (board : Dashboard) : Option String → Except Failure (Option Handle)
  | none => .ok none
  | some name => do
    let (source, observed) ← find board.sources name
    return if observed.content.isSome then some source else none

def defineSerializer (board : Dashboard) (name : String) (format : Value) (config : Option String)
    (plan : Except Failure DelegatePlan) (options : List (String × Value)) :
    Except Failure Dashboard := do
  let shared ← findOptional board.configs config
  let plan ← plan
  let given := ((shared.bind board.configs.value?)).getD {}
  let serializer ← Serializer.create format given plan.delegate options
  let config := match shared with
    | some handle =>
      if Serializer.sharesConfig options then .shared handle else .own serializer.config
    | none => .own serializer.config
  let presenter : Presenter :=
    { format := serializer.format, config, delegate := serializer.delegate, hook := plan.hook }
  return { board with presenters := board.presenters.put (board.presenters.next name) presenter }

def setShared (board : Dashboard) (config : Handle) (option : String) (value : Value) :
    Dashboard :=
  let current := (board.configs.value? config).getD {}
  { board with configs := board.configs.put config (current.set option value) }

def setOption (board : Dashboard) (serializer option : String) (value : Value) :
    Except Failure Dashboard := do
  let (handle, presenter) ← find board.presenters serializer
  match presenter.config with
  | .shared config => return board.setShared config option value
  | .own config =>
    let presenter := { presenter with config := .own (config.set option value) }
    return { board with presenters := board.presenters.put handle presenter }

def defineView (board : Dashboard) (name serializer : String) (source : Option String) :
    Except Failure Dashboard := do
  let source ← board.findAttachable source
  let (presenter, _) ← find board.presenters serializer
  if board.loop = .absent then throw .noLoop
  let view := board.views.next name
  let board := board.setView view { presenter }
  return if source.isSome then board.attach view source else board

def call (board : Dashboard) (name : String) (call : Except Failure Call) :
    Except Failure (Reply × Dashboard) := do
  let (source, observed, content) ← board.findSource name
  let call ← call
  let (reply, changed) ← content.perform call
  let board := match call with
    | .subscribe bell script =>
      let observed := { observed with scripts := observed.scripts.put bell script }
      (board.setSource source observed).subscribe source (.bell bell)
    | .unsubscribe bell => board.unsubscribe source (.bell bell)
    | _ => board
  return (reply, match changed with
    | none => board
    | some content =>
      (board.setSource source { observed with content := some content }).notify source)

def updatePage (board : Dashboard) (name : String) (change : PageState → PageState) :
    Except Failure Dashboard := do
  let (handle, page) ← find board.pages name
  return { board with pages := board.pages.put handle (change page) }

def renderPage (board : Dashboard) (page : PageState) : Except Failure String :=
  Page.render board.language page.template page.title
    (page.views.map fun view => ((board.views.value? view).map View.text).getD .null)

def viewNames (board : Dashboard) (page : PageState) : List String :=
  page.views.filterMap (Store.currentName board.views)

def sourceName (board : Dashboard) : Option Handle → Option String
  | none => (board.sources.latest.find? fun (_, observed) => observed.content.isNone).map Prod.fst
  | some source => Store.currentName board.sources source

def attempt (board : Dashboard) : Action → Except Failure (Reply × Dashboard)
  | .defineConfig name options => do
    let config ← Config.ofFields options
    return (.done, { board with configs := board.configs.put (board.configs.next name) config })
  | .setConfig name option value => do
    let (config, _) ← find board.configs name
    return (.done, board.setShared config option value)
  | .defineSerializer name format config plan options => do
    return (.done, ← board.defineSerializer name format config plan options)
  | .setOption serializer option value => do
    return (.done, ← board.setOption serializer option value)
  | .defineSource name content =>
    .ok (.done, board.setSource (board.sources.next name) { content })
  | .setFaults name faults => do
    let (source, observed, content) ← board.findSource name
    let content := match content with
      | .tree data (some _) => .tree data (some faults)
      | content => content
    return (.done, board.setSource source { observed with content := some content })
  | .call name call => board.call name call
  | .countListeners name => do
    let (_, observed, _) ← board.findSource name
    return (.number observed.listeners.size, board)
  | .defineView name serializer source => do
    return (.done, ← board.defineView name serializer source)
  | .attach name source => do
    let (view, _) ← find board.views name
    return (.done, board.attach view (← board.findAttachable source))
  | .setSerializer name serializer => do
    let (view, _) ← find board.views name
    return (.done, board.setPresenter view (← find board.presenters serializer).1)
  | .request name => do
    let (view, _) ← find board.views name
    return (.done, board.requestUpdate view)
  | .sourceOf name => do
    if board.sources.isEmpty then return (.text none, board)
    let (_, state) ← find board.views name
    return (.text (board.sourceName state.source), board)
  | .definePage name template title => do
    let page : PageState := { template := ← Page.template board.language template, title }
    return (.done, { board with pages := board.pages.put (board.pages.next name) page })
  | .setTitle name title => do
    return (.done, ← board.updatePage name fun page => { page with title })
  | .addToPage name view => do
    let _ ← find board.pages name
    let (view, _) ← find board.views view
    return (.done, ← board.updatePage name fun page =>
      { page with views := page.views ++ [view] })
  | .clearPage name => do
    return (.done, ← board.updatePage name fun page => { page with views := [] })
  | .pageViews name => do
    let (_, page) ← find board.pages name
    return (.names (board.viewNames page), board)
  | .renderPage name => do
    let (_, page) ← find board.pages name
    return (.text (some (← board.renderPage page)), board)
  | .render _ | .turn => .ok (.done, board)

def afterFailure (board : Dashboard) : Action → Dashboard
  | .call name (.ok call) =>
    match board.findSource name with
    | .error _ => board
    | .ok (source, observed, content) =>
      board.setSource source { observed with content := some (content.afterFailure call) }
  | _ => board

def perform (board : Dashboard) : Action → Except Failure Reply × Dashboard
  | .render name =>
    match find board.views name with
    | .error failure => (.error failure, board)
    | .ok (view, _) =>
      let (outcome, board) := board.render view
      (outcome.map .value, board)
  | .turn =>
    let (outcome, board) := board.turn
    (outcome.map fun _ => .done, board)
  | action =>
    match board.attempt action with
    | .ok (reply, board) => (.ok reply, board)
    | .error failure => (.error failure, board.afterFailure action)

def fresh (board : Dashboard) : Dashboard := { board with log := [], rung := #[] }

def latestViews (board : Dashboard) : List (String × View) :=
  board.views.names.filterMap fun name =>
    match find board.views name with
    | .ok (_, state) => some (name, state)
    | .error _ => none

end Dashboard

end TreeTable

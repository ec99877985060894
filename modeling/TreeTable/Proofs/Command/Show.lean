import TreeTable.Command.Run
import TreeTable.Proofs.Dashboard.Run
import TreeTable.Proofs.Delegate
import TreeTable.Proofs.Document

namespace TreeTable

theorem Html.Inline.isText_of_render {ν : Type} {config : Config} {delegate : Delegate}
    {source : Source ν} {before after : Draft} {value : Value}
    (placeholder : config.emptyPlaceholder.IsText)
    (rendered : Html.Inline.render config delegate source before = .ok value after) :
    value.IsText := by
  unfold Html.Inline.render at rendered
  obtain ⟨_, _, -, rendered⟩ := Step.bind_eq_ok.mp rendered
  obtain ⟨items, _, -, rendered⟩ := Step.bind_eq_ok.mp rendered
  split at rendered
  · obtain ⟨rfl, -⟩ := Step.pure_eq_ok.mp rendered
    exact placeholder
  · obtain ⟨text, _, -, rendered⟩ := Step.bind_eq_ok.mp rendered
    obtain ⟨rfl, -⟩ := Step.pure_eq_ok.mp rendered
    exact Value.isText_text text

theorem Serializer.isText_of_outcome {ν : Type} {serializer : Serializer} {source : Source ν}
    {refusal : Nat → Option Failure} {value : Value}
    (placeholder : serializer.config.emptyPlaceholder.IsText)
    (rendered : (serializer.rendering refusal source).outcome = .ok value) : value.IsText := by
  unfold rendering at rendered
  cases came : serializer.render source { refusal } with
  | error failure draft => simp [came] at rendered
  | ok answer draft =>
    obtain ⟨shown, cap⟩ := answer
    obtain rfl : shown = value := by simpa [came] using rendered
    unfold render at came
    cases chosen : serializer.format <;>
      simp only [chosen, Step.bind_eq_ok, Step.pure_eq_ok, Prod.mk.injEq] at came
    case htmlSet =>
      obtain ⟨value, _, ran, ⟨rfl, -⟩, -⟩ := came
      exact Html.Inline.isText_of_render placeholder ran
    case htmlList =>
      obtain ⟨text, _, -, ⟨rfl, -⟩, -⟩ := came
      exact Value.isText_text text
    case htmlTable =>
      obtain ⟨⟨text, _⟩, _, -, ⟨rfl, -⟩, -⟩ := came
      exact Value.isText_text text
    all_goals
      obtain ⟨_, _, -, text, _, -, ⟨rfl, -⟩, -⟩ := came
      exact Value.isText_text text

/-- The default template is read, and it is filled whatever the texts put into it. -/
structure Page.Language.FillsDefault (language : Page.Language) : Prop where
  read : language.read Page.defaultTemplate = .ok ()
  filled : ∀ (title css : String) (views : List String),
    Comes (language.fill Page.defaultTemplate (.text title) (.text css) (views.map .text))

theorem Page.Language.ofDefault_fillsDefault : Page.Language.ofDefault.FillsDefault where
  read := by simp only [Page.Language.ofDefault, if_true]
  filled title css views := comes_ok (Page.frame (.text title) (.text css) (views.map .text))

end TreeTable

namespace TreeTable.Command

def serializerFor (request : Request) (format : Format) : Serializer :=
  { format, config := ({} : Config).setAll request.options }

variable {request : Request} {format : Format} {language : Page.Language} {tree : Tree}

theorem create_eq (chosen : request.format = .text format.key) :
    Serializer.create request.format {} .plain request.options =
      .ok (serializerFor request format) := by
  obtain ⟨_, verbose, file, maxRows, noHeaders, rowHeaders, separator, page⟩ := request
  dsimp only at chosen
  subst chosen
  cases separator <;> cases maxRows <;> cases format <;> rfl

def stage (request : Request) (format : Format) (language : Page.Language) (tree : Tree)
    (view : View) (log : List Notice) : Dashboard where
  loop := .forgiving
  language := language
  presenters := [(⟨"serializer", 0⟩,
    { format, config := .own (serializerFor request format).config, delegate := .plain })]
  sources := [(⟨"source", 0⟩,
    { content := some (.tree tree none), listeners := #[.view ⟨"view", 0⟩] })]
  views := [(⟨"view", 0⟩, view)]
  log := log

def unshown : View := { presenter := ⟨"serializer", 0⟩, source := some ⟨"source", 0⟩ }

theorem board_eq (tree : Tree) (chosen : request.format = .text format.key) :
    ∃ log, request.board language tree =
      ({ stage request format language tree { unshown with pending := true } log with
          queue := [⟨"view", 0⟩] } : Dashboard).turn.2 := by
  have made := create_eq chosen
  let board : Dashboard := { loop := .forgiving, language }
  let presenter : Presenter :=
    { format, config := .own (serializerFor request format).config, delegate := .plain }
  have first : (board.perform
      (.defineSerializer "serializer" request.format none (.ok {}) request.options)).2 =
        { board with presenters := [(⟨"serializer", 0⟩, presenter)] } := by
    simp only [Dashboard.perform, Dashboard.attempt, Dashboard.defineSerializer,
      Dashboard.findOptional, ok_bind, Option.bind_none, Option.getD_none, made]
    rfl
  refine ⟨[.scheduled format.title, .attached (some (.tree tree none))], ?_⟩
  unfold Request.board
  rw [List.foldl_cons, first]
  rfl

theorem render_eq (log : List Notice) :
    (stage request format language tree { unshown with pending := true } log).render ⟨"view", 0⟩ =
      let rendering := (serializerFor request format).serialize (some (.tree tree none))
      (stage request format language tree unshown
        (match rendering.capReached with
          | none => log
          | some cap => log ++ [.capReached cap])).publish ⟨"view", 0⟩ format.title
            rendering.outcome := by
  let presenter : Presenter :=
    { format, config := .own (serializerFor request format).config, delegate := .plain }
  have lowered : (stage request format language tree { unshown with pending := true } log).lower
      ⟨"view", 0⟩ = stage request format language tree unshown log := rfl
  have drawn : (stage request format language tree unshown log).draw presenter (some ⟨"source", 0⟩) =
      (serializerFor request format).serialize (some (.tree tree none)) := rfl
  have settled : ∀ asked, (stage request format language tree unshown log).settleHook ⟨"serializer", 0⟩
      presenter asked = stage request format language tree unshown log := fun _ => rfl
  have stored : (stage request format language tree { unshown with pending := true } log).views.value?
      ⟨"view", 0⟩ = some { unshown with pending := true } := rfl
  have chosen : (stage request format language tree unshown log).presenters.value? ⟨"serializer", 0⟩ =
      some presenter := rfl
  unfold Dashboard.render
  rw [stored]
  dsimp only
  rw [lowered, show unshown.presenter = ⟨"serializer", 0⟩ from rfl, chosen]
  dsimp only
  rw [show unshown.source = some ⟨"source", 0⟩ from rfl, drawn, settled]
  cases ((serializerFor request format).serialize (some (.tree tree none))).capReached <;> rfl

theorem publish_eq (log : List Notice) (outcome : Except Failure Value) :
    ∃ log', ((stage request format language tree unshown log).publish ⟨"view", 0⟩ format.title outcome).2 =
      stage request format language tree (unshown.publish outcome) log' := by
  have stored : (stage request format language tree unshown log).views.value? ⟨"view", 0⟩ =
      some unshown := rfl
  unfold Dashboard.publish
  rw [stored]
  cases outcome with
  | ok text => cases held : text.elements? <;> simp only [held] <;> exact ⟨_, rfl⟩
  | error failure =>
    by_cases inconsistent : failure.kind = .inconsistent
    · simp only [inconsistent]
      exact ⟨_, rfl⟩
    · simp only [inconsistent]
      exact ⟨_, rfl⟩

theorem board_turned (tree : Tree) (chosen : request.format = .text format.key) :
    ∃ log, request.board language tree = stage request format language tree
      (unshown.publish
        ((serializerFor request format).serialize (some (.tree tree none))).outcome) log := by
  obtain ⟨log, board⟩ := board_eq tree chosen
  have waiting : ({ stage request format language tree { unshown with pending := true } log with
      queue := [⟨"view", 0⟩] } : Dashboard).turn =
        Dashboard.runAll [⟨"view", 0⟩]
          (stage request format language tree { unshown with pending := true } log) := rfl
  have forgiving : (stage request format language tree { unshown with pending := true } log).loop =
      .forgiving := rfl
  rw [board, waiting, Dashboard.runAll_cons forgiving, render_eq]
  exact publish_eq _ _

theorem text_eq (tree : Tree) (chosen : request.format = .text format.key) :
    ∃ log, request.board language tree = stage request format language tree
        (unshown.publish
          ((serializerFor request format).serialize (some (.tree tree none))).outcome) log ∧
      request.text (request.board language tree) =
        match ((serializerFor request format).serialize (some (.tree tree none))).outcome with
        | .ok value => request.shownText (request.board language tree) value
        | .error _ => .error (.notRendered format.title) := by
  obtain ⟨log, board⟩ := board_turned tree chosen
  refine ⟨log, board, ?_⟩
  have title : ((Format.registry.entries.value? request.format).map Registered.title).getD "" =
      format.title := by
    rw [chosen]
    cases format <;> rfl
  rw [Request.text, title, board]
  cases ((serializerFor request format).serialize (some (.tree tree none))).outcome <;> rfl

theorem shownText_page_comes (fills : language.FillsDefault) {title : String}
    (asked : request.page = some title) {view : View} {shown : String}
    (published : view.text = .text shown) (log : List Notice) (value : Value) :
    Comes (request.shownText (stage request format language tree view log) value) := by
  obtain ⟨text, composed⟩ := fills.filled title Page.styleSheet [shown]
  let page : PageState := { template := Page.defaultTemplate, title := .text title }
  let filled : PageState := { page with views := [⟨"view", 0⟩] }
  let staged (page : PageState) : Dashboard :=
    { stage request format language tree view log with pages := [(⟨"page", 0⟩, page)] }
  have read : Page.template language none = .ok Page.defaultTemplate := by
    simp only [Page.template, Option.getD_none, Value.asText, fills.read, ok_bind]
    rfl
  have defined : (stage request format language tree view log).attempt
      (.definePage "page" none (.text title)) = .ok (.done, staged page) := by
    have spoken : (stage request format language tree view log).language = language := rfl
    simp only [Dashboard.attempt, spoken, read, ok_bind]
    rfl
  have added : (staged page).attempt (.addToPage "page" "view") = .ok (.done, staged filled) := rfl
  have found : Dashboard.find (staged filled).pages "page" = .ok (⟨"page", 0⟩, filled) := rfl
  have rendered : (staged filled).renderPage filled = language.fill Page.defaultTemplate
      (.text title) (.text Page.styleSheet) [.text shown] := by
    rw [← published]
    rfl
  have shown : (staged filled).attempt (.renderPage "page") =
      .ok (.text (some text), staged filled) := by
    simp only [Dashboard.attempt, found, rendered, ← List.map_singleton, composed, ok_bind]
    rfl
  refine ⟨text, ?_⟩
  rw [Request.shownText, asked]
  simp only [defined, added, shown, ok_bind]
  rfl

theorem emptyPlaceholder_eq (request : Request) (format : Format) :
    (serializerFor request format).config.emptyPlaceholder = .text "(empty)" := by
  obtain ⟨_, verbose, file, maxRows, noHeaders, rowHeaders, separator, page⟩ := request
  cases separator <;> cases maxRows <;> rfl

end TreeTable.Command

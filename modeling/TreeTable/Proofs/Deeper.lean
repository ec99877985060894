import TreeTable.Proofs.Endless
import TreeTable.Proofs.Walk.Deeper

namespace TreeTable

open Render Walk

variable {ν α β : Type}

def Config.withMaxDepth (config : Config) (limit : Value) : Config :=
  { config with maxDepth := limit }

def Serializer.withMaxDepth (serializer : Serializer) (limit : Value) : Serializer :=
  { serializer with config := serializer.config.withMaxDepth limit }

namespace Render

/-- Whatever the first steps answer the second ones answer as well, and leave the same behind. -/
def Upholds (steps steps' : Render α) : Prop :=
  ∀ before answer after, steps before = .ok answer after → steps' before = .ok answer after

theorem Upholds.refl (steps : Render α) : Upholds steps steps := fun _ _ _ => id

theorem Upholds.bind {steps steps' : Render α} {next next' : α → Render β}
    (upholds : Upholds steps steps') (upholds' : ∀ answer, Upholds (next answer) (next' answer)) :
    Upholds (steps >>= next) (steps' >>= next') := by
  intro before answer after returns
  obtain ⟨middle, between, first, returns⟩ := Step.bind_eq_ok.mp returns
  exact Step.bind_eq_ok.mpr
    ⟨middle, between, upholds _ _ _ first, upholds' middle _ _ _ returns⟩

end Render

section

variable {limit limit' : Value} {lower higher : Int} (limited : ceiling limit = .ok lower)
  (limited' : ceiling limit' = .ok higher) (lifted : lower ≤ higher)
include limited limited' lifted

namespace Render

theorem upholds_walkAll (config : Config) (source : Source ν) (visit : Event ν → Render Unit)
    (recursive : Bool) (budget : Option Budget) :
    Upholds (walkAll (config.withMaxDepth limit) source visit recursive budget)
      (walkAll (config.withMaxDepth limit') source visit recursive budget) := by
  have low : ceiling (config.withMaxDepth limit).maxDepth = .ok lower := limited
  have high : ceiling (config.withMaxDepth limit').maxDepth = .ok higher := limited'
  rw [walkAll_eq, walkAll_eq, low, high, Step.of_ok_bind, Step.of_ok_bind]
  obtain same | ⟨fails, -⟩ := script_goesOn source none 0 recursive lifted budget
  · rw [same]
    exact .refl _
  · intro before answer after returns
    obtain ⟨_, _, -, returns⟩ := Step.bind_eq_ok.mp returns
    obtain ⟨_, _, ends, -⟩ := Step.bind_eq_ok.mp returns
    rw [fails] at ends
    cases ends

end Render

namespace Csv

theorem Writer.upholds_render (config : Config) (delegate : Delegate) (source : Source ν)
    (nested : Bool) (separator : Value) (format : FieldFormat) :
    let writer (limit : Value) : Writer :=
      ⟨config.withMaxDepth limit, delegate, nested, separator, format⟩
    Upholds ((writer limit).render source) ((writer limit').render source) := by
  intro writer
  have fields : ∀ column left, (writer limit').headerFields source column left =
      (writer limit).headerFields source column left := by
    intro column left
    rw [headerFields_eq, headerFields_eq]
    rfl
  have head : (writer limit').head source = (writer limit).head source := by
    simp only [Writer.head, headerLine, fields]
    rfl
  rw [Writer.render_eq, Writer.render_eq, head]
  exact (Upholds.refl _).bind fun _ =>
    (upholds_walkAll limited limited' lifted config source ((writer limit).visit source) nested
      none).bind fun _ => .refl _

end Csv

namespace Html

theorem Inline.upholds_render (config : Config) (delegate : Delegate) (source : Source ν) :
    Upholds (render (config.withMaxDepth limit) delegate source)
      (render (config.withMaxDepth limit') delegate source) :=
  (upholds_walkAll limited limited' lifted config source (visit config delegate source) false
    none).bind fun _ => .refl _

theorem Outline.upholds_render (config : Config) (delegate : Delegate) (source : Source ν) :
    Upholds (render (config.withMaxDepth limit) delegate source)
      (render (config.withMaxDepth limit') delegate source) :=
  (upholds_walkAll limited limited' lifted config source (visit delegate source) true
    none).bind fun _ => .refl _

theorem Table.upholds_body (config : Config) (delegate : Delegate) (source : Source ν) :
    Upholds (body (config.withMaxDepth limit) delegate source)
      (body (config.withMaxDepth limit') delegate source) :=
  (Upholds.refl (Step.of config.rowCap)).bind fun cap =>
    (upholds_walkAll limited limited' lifted config source (visit config delegate source) true
      (some (Budget.ofLimit cap))).bind fun _ => .refl _

theorem Table.upholds_render (config : Config) (delegate : Delegate) (source : Source ν) :
    Upholds (render (config.withMaxDepth limit) delegate source)
      (render (config.withMaxDepth limit') delegate source) := by
  have cells : ∀ limit limit' column left,
      headerCells (config.withMaxDepth limit') delegate source column left =
        headerCells (config.withMaxDepth limit) delegate source column left := by
    intro limit limit' column left
    induction left generalizing column with
    | zero => rfl
    | succ left ih =>
      rw [headerCells, headerCells, ih]
      rfl
  have head : ∀ columns, head (config.withMaxDepth limit') delegate source columns =
      head (config.withMaxDepth limit) delegate source columns := by
    intro columns
    simp only [Table.head, headerRow, cells limit limit']
    rfl
  rw [render_eq, render_eq]
  refine (Upholds.refl _).bind fun columns => ?_
  dsimp only
  rw [head]
  refine (Upholds.refl _).bind fun opening => (Upholds.refl _).bind fun rows => ?_
  split
  · exact .refl _
  · exact (upholds_body limited limited' lifted config delegate source).bind fun _ => .refl _

end Html

theorem Serializer.upholds_render (serializer : Serializer) (source : Source ν) :
    Upholds ((serializer.withMaxDepth limit).render source)
      ((serializer.withMaxDepth limit').render source) := by
  obtain ⟨format, config, delegate⟩ := serializer
  have delimited : ∀ nested, Upholds
      (Step.of (Csv.Writer.ofConfig (config.withMaxDepth limit) delegate nested) >>= fun writer =>
        writer.render source >>= fun text => pure (Value.text text, (none : Option Value)))
      (Step.of (Csv.Writer.ofConfig (config.withMaxDepth limit') delegate nested) >>= fun writer =>
        writer.render source >>= fun text => pure (Value.text text, none)) := by
    intro nested
    have made : ∀ limit, Csv.Writer.ofConfig (config.withMaxDepth limit) delegate nested =
        Csv.FieldFormat.ofConfig config (config.separator.getD (.text Csv.defaultSeparator)) >>=
          fun format => .ok ⟨config.withMaxDepth limit, delegate, nested,
            config.separator.getD (.text Csv.defaultSeparator), format⟩ := fun _ => rfl
    rw [made, made]
    cases Csv.FieldFormat.ofConfig config
        (config.separator.getD (.text Csv.defaultSeparator)) with
    | error failure => exact .refl _
    | ok format =>
      rw [ok_bind, ok_bind, Step.of_ok_bind, Step.of_ok_bind]
      exact (Csv.Writer.upholds_render limited limited' lifted config delegate source nested _
        format).bind fun _ => .refl _
  cases format with
  | csv => exact delimited false
  | csvTree => exact delimited true
  | htmlSet =>
    exact (Html.Inline.upholds_render limited limited' lifted config delegate source).bind
      fun _ => .refl _
  | htmlList =>
    exact (Html.Outline.upholds_render limited limited' lifted config delegate source).bind
      fun _ => .refl _
  | htmlTable =>
    exact (Html.Table.upholds_render limited limited' lifted config delegate source).bind
      fun _ => .refl _

theorem Serializer.rendering_lifted (serializer : Serializer) (refusal : Nat → Option Failure)
    (source : Source ν) {text : Value}
    (returns : ((serializer.withMaxDepth limit).rendering refusal source).outcome = .ok text) :
    (serializer.withMaxDepth limit').rendering refusal source =
      (serializer.withMaxDepth limit).rendering refusal source := by
  have upholds := serializer.upholds_render limited limited' lifted source { refusal }
  rw [rendering] at returns
  rw [rendering, rendering]
  cases rendered : (serializer.withMaxDepth limit).render source { refusal } with
  | ok answer after => rw [upholds _ _ rendered]
  | error failure after =>
    rw [rendered] at returns
    cases returns

end

/-- The deepest level is a ceiling and nothing else. Under a higher one a walk that has come to its
end comes to it again, by the same events and with the same budget left; a walk that has failed is
told the same events first, and no others unless it failed for its depth. So a text that is rendered
under a ceiling, in whichever format, is rendered under every higher one. -/
theorem Serializer.rendering_under_higher_ceiling (source : Source ν) {lower higher : Int}
    (lifted : lower ≤ higher) :
    (∀ (parent : Option ν) (depth : Int) (recursive : Bool) (budget : Option Budget),
      ∃ events events' : List (Event ν), events <+: events' ∧
        ∀ {σ : Type} (see : σ → Event ν → σ) (kept : σ),
          let walked (maxDepth : Int) :=
            walk source (watching see) parent depth recursive maxDepth ⟨budget, kept⟩
          keptAtEnd (walked lower) = events.foldl see kept ∧
          keptAtEnd (walked higher) = events'.foldl see kept ∧
          (∀ truncated after, walked lower = .ok truncated after →
            walked higher = .ok truncated after ∧ events' = events) ∧
          ∀ failure after, walked lower = .error failure after → failure ≠ .tooDeep →
            (∃ after', walked higher = .error failure after') ∧ events' = events) ∧
    ∀ (serializer : Serializer) (refusal : Nat → Option Failure) (limit limit' : Value),
      ceiling limit = .ok lower → ceiling limit' = .ok higher → ∀ text,
        ((serializer.withMaxDepth limit).rendering refusal source).outcome = .ok text →
          (serializer.withMaxDepth limit').rendering refusal source =
            (serializer.withMaxDepth limit).rendering refusal source :=
  ⟨fun parent depth recursive budget => walk_goesOn source parent depth recursive lifted budget,
    fun serializer refusal _ _ limited limited' _ =>
      serializer.rendering_lifted limited limited' lifted refusal source⟩

def twoRowTable : Serializer := ⟨.htmlTable, { maxRows := .int 2 }, .plain⟩

theorem Serializer.rendering_twoCircling_deeper :
    (2 : Int) ≤ 9 ∧
    ((twoRowTable.withMaxDepth (.int 9)).rendering (fun _ => none)
      (twoCircling.faultySource { cyclic := true })).outcome =
        .ok (.text ("<table>\n<tr><th>N</th></tr>\n<tr><td>a</td></tr>\n" ++
          "<tr><td>&nbsp;&nbsp;a</td></tr>\n<tr><td colspan=1>...</td></tr>\n</table>\n")) := by
  have lifted : (2 : Int) ≤ 9 := by decide
  have returns : ((twoRowTable.withMaxDepth (.int 2)).rendering (fun _ => none)
      (twoCircling.faultySource { cyclic := true })).outcome =
        .ok (.text ("<table>\n<tr><th>N</th></tr>\n<tr><td>a</td></tr>\n" ++
          "<tr><td>&nbsp;&nbsp;a</td></tr>\n<tr><td colspan=1>...</td></tr>\n</table>\n")) := rfl
  have same := (Serializer.rendering_under_higher_ceiling
    (twoCircling.faultySource { cyclic := true }) lifted).2 twoRowTable (fun _ => none) (.int 2)
    (.int 9) rfl rfl _ returns
  exact ⟨lifted, (congrArg Rendering.outcome same).trans returns⟩

end TreeTable

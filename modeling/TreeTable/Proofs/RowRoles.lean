import TreeTable.Proofs.Roles

namespace TreeTable

variable {ν : Type}

def Source.withRowRoles (source : Source ν) (roles : Value → Value → Except Failure Value) :
    Source ν :=
  { source with header := fun axis index role =>
      match axis, role with
      | .row, some role => roles index role
      | axis, role => source.header axis index role }

variable (source : Source ν) (roles : Value → Value → Except Failure Value)

theorem Source.withRowRoles_eq :
    source.withRowRoles roles = source.withRoles (source.withRowRoles roles).roles := by
  have text : (source.withRowRoles roles).text =
      (source.withRoles (source.withRowRoles roles).roles).text := by
    funext node role
    cases role <;> rfl
  have header : (source.withRowRoles roles).header =
      (source.withRoles (source.withRowRoles roles).roles).header := by
    funext axis index role
    cases axis <;> cases role <;> rfl
  exact congrArg₂ (fun text header => { source with text, header }) text header

theorem Delegate.headerText_withRowRoles (delegate : Delegate) :
    delegate.headerText (source.withRowRoles roles) = delegate.headerText source := by
  rw [Source.withRowRoles_eq, headerText_withRoles]

theorem Render.walkAll_withRowRoles (config : Config) (visit : Event ν → Render Unit)
    (recursive : Bool) (budget : Option Budget) :
    walkAll config (source.withRowRoles roles) visit recursive budget =
      walkAll config source visit recursive budget := by
  rw [Source.withRowRoles_eq, walkAll_withRoles]

theorem Render.ask_withRowRoles (delegate : Delegate) :
    ask delegate (source.withRowRoles roles) = ask delegate source := by
  rw [Source.withRowRoles_eq, ask_withRoles]

namespace Html

theorem decorated_withRowRoles (config : Config) (delegate : Delegate) :
    decorated config delegate (source.withRowRoles roles) = decorated config delegate source := by
  funext parent row column
  unfold decorated
  rw [Render.ask_withRowRoles]
  rfl

theorem Inline.render_withRowRoles (config : Config) (delegate : Delegate) :
    render config delegate (source.withRowRoles roles) = render config delegate source := by
  have same : visit config delegate (source.withRowRoles roles) =
      visit config delegate source := by
    unfold visit
    rw [decorated_withRowRoles]
  rw [render, render, same, Render.walkAll_withRowRoles]

namespace Table

variable (config : Config) (delegate : Delegate)

theorem headerRow_withRowRoles (columns : Nat) :
    headerRow config delegate (source.withRowRoles roles) columns =
      headerRow config delegate source columns := by
  have cells : ∀ column left, headerCells config delegate (source.withRowRoles roles) column left =
      headerCells config delegate source column left := by
    intro column left
    induction left generalizing column with
    | zero => rfl
    | succ left ih =>
      rw [headerCells, headerCells, ih, Delegate.headerText_withRowRoles]
      rfl
  rw [headerRow, headerRow, cells]

theorem render_withRowRoles (bare : config.rowHeaders = false) :
    render config delegate (source.withRowRoles roles) = render config delegate source := by
  have same : visit config delegate (source.withRowRoles roles) =
      visit config delegate source := by
    funext event
    unfold visit
    rw [bare, decorated_withRowRoles]
    rfl
  simp only [render, body, headerRow_withRowRoles, same, Render.walkAll_withRowRoles]
  rfl

end Table

end Html

def Serializer.readsRowRoles (serializer : Serializer) : Bool :=
  serializer.format == .htmlTable && serializer.config.rowHeaders

theorem Serializer.rendering_withRowRoles {serializer : Serializer}
    (blind : serializer.readsRowRoles = false) (refusal : Nat → Option Failure) :
    serializer.rendering refusal (source.withRowRoles roles) =
      serializer.rendering refusal source := by
  have rendered : serializer.render (source.withRowRoles roles) = serializer.render source := by
    obtain ⟨format, config, delegate⟩ := serializer
    cases format with
    | csv | csvTree =>
      rw [Source.withRowRoles_eq]
      simp only [render, Csv.Writer.render_withRoles]
    | htmlSet => simp only [render, Html.Inline.render_withRowRoles]
    | htmlList =>
      rw [Source.withRowRoles_eq]
      simp only [render, Html.Outline.render_withRoles]
    | htmlTable =>
      simp only [render, Html.Table.render_withRowRoles source roles config delegate blind]
  rw [rendering, rendering, rendered]

end TreeTable

import TreeTable.Proofs.Render

namespace TreeTable

variable {ν : Type}

/-- What a source answers about roles. -/
structure RoleAnswers (ν : Type) where
  cell : ν → Value → Except Failure (Option String)
  header : Axis → Value → Value → Except Failure Value

inductive RoleQuestion (ν : Type) where
  | cell (node : ν) (role : Value)
  | header (axis : Axis) (index role : Value)

namespace RoleAnswers

def Fail (answers : RoleAnswers ν) (failure : Failure) : RoleQuestion ν → Prop
  | .cell node role => answers.cell node role = .error failure
  | .header axis index role => answers.header axis index role = .error failure

/-- The question is answered, if only by the failure to find something. -/
def Settles (answers : RoleAnswers ν) (question : RoleQuestion ν) : Prop :=
  ∀ failure, answers.Fail failure question → failure.isAbsence = true

structure AgreeOn (asked : RoleQuestion ν → Prop) (given answers : RoleAnswers ν) : Prop where
  cell : ∀ node role, asked (.cell node role) → answers.cell node role = given.cell node role
  header : ∀ axis index role, asked (.header axis index role) →
    answers.header axis index role = given.header axis index role

abbrev SameBut (question : RoleQuestion ν) (given answers : RoleAnswers ν) : Prop :=
  given.AgreeOn (· ≠ question) answers

theorem SameBut.refl {question : RoleQuestion ν} (given : RoleAnswers ν) :
    given.SameBut question given := ⟨fun _ _ _ => rfl, fun _ _ _ _ => rfl⟩

theorem SameBut.both {question : RoleQuestion ν} {given answers answers' : RoleAnswers ν}
    (same : given.SameBut question answers) (same' : given.SameBut question answers') :
    answers.SameBut question answers' where
  cell node role other := (same'.cell node role other).trans (same.cell node role other).symm
  header axis index role other :=
    (same'.header axis index role other).trans (same.header axis index role other).symm

theorem exists_failing (given : RoleAnswers ν) (question : RoleQuestion ν) (failure : Failure) :
    ∃ answers, given.SameBut question answers ∧ answers.Fail failure question := by
  classical
  refine ⟨⟨fun node role =>
      if .cell node role = question then .error failure else given.cell node role,
    fun axis index role =>
      if .header axis index role = question then .error failure
      else given.header axis index role⟩, ⟨?_, ?_⟩, ?_⟩
  · exact fun node role other => if_neg other
  · exact fun axis index role other => if_neg other
  · cases question <;> exact if_pos rfl

end RoleAnswers

namespace Source

def roles (source : Source ν) : RoleAnswers ν where
  cell node role := source.text node (some role)
  header axis index role := source.header axis index (some role)

def withRoles (source : Source ν) (answers : RoleAnswers ν) : Source ν :=
  { source with
    text := fun node role =>
      match role with
      | some role => answers.cell node role
      | none => source.text node none
    header := fun axis index role =>
      match role with
      | some role => answers.header axis index role
      | none => source.header axis index none }

theorem withRoles_roles (source : Source ν) : source.withRoles source.roles = source := by
  have text : (source.withRoles source.roles).text = source.text := by
    funext node role
    cases role <;> rfl
  have header : (source.withRoles source.roles).header = source.header := by
    funext axis index role
    cases role <;> rfl
  exact congrArg₂ (fun text header => { source with text, header }) text header

end Source

variable (source : Source ν) (answers : RoleAnswers ν)

theorem Inquiry.run_withRoles (inquiry : Inquiry) (parent : Option ν) :
    inquiry.run (source.withRoles answers) parent = inquiry.run source parent := by
  induction inquiry with
  | done outcome => rfl
  | count measure next ih => cases measure <;> exact ih _
  | cell row column next ih => exact ih _
  | header axis index next ih => exact ih _

theorem Delegate.text_withRoles (delegate : Delegate) :
    delegate.text (source.withRoles answers) = delegate.text source := by
  funext parent row column
  cases delegate with
  | plain | markup => rfl
  | own texts => exact Inquiry.run_withRoles source answers _ parent

theorem Delegate.headerText_withRoles (delegate : Delegate) :
    delegate.headerText (source.withRoles answers) = delegate.headerText source := by
  funext axis index
  cases delegate with
  | plain | markup => rfl
  | own texts =>
    exact congrArg (Functor.map Value.text) (Inquiry.run_withRoles source answers _ none)

theorem Render.ask_withRoles (delegate : Delegate) :
    ask delegate (source.withRoles answers) = ask delegate source := by
  funext parent row column
  unfold ask
  rw [Delegate.text_withRoles]

theorem Walk.script_withRoles : script (source.withRoles answers) = script source := by
  have levels : ∀ recursive levels,
      levelScript (source.withRoles answers) recursive levels =
        levelScript source recursive levels := by
    intro recursive levels
    induction levels with
    | zero => rfl
    | succ levels ih =>
      funext depth parent budget
      rw [levelScript, levelScript, ih]
      rfl
  funext parent depth recursive maxDepth budget
  rw [script, script, levels]

theorem Render.walkAll_withRoles (config : Config) (visit : Event ν → Render Unit)
    (recursive : Bool) (budget : Option Budget) :
    walkAll config (source.withRoles answers) visit recursive budget =
      walkAll config source visit recursive budget := by
  rw [walkAll_eq, walkAll_eq, Walk.script_withRoles]

namespace Csv.Writer

variable (writer : Writer)

theorem headerFields_withRoles (column left : Nat) :
    writer.headerFields (source.withRoles answers) column left =
      writer.headerFields source column left := by
  induction left generalizing column with
  | zero => rfl
  | succ left ih =>
    rw [headerFields, headerFields, ih, Delegate.headerText_withRoles]

theorem render_withRoles :
    writer.render (source.withRoles answers) = writer.render source := by
  have line : writer.headerLine (source.withRoles answers) = writer.headerLine source := by
    simp only [headerLine, headerFields_withRoles]
    rfl
  have visit : writer.visit (source.withRoles answers) = writer.visit source := by
    unfold Writer.visit
    rw [Delegate.headerText_withRoles, Render.ask_withRoles]
  rw [render, render, line, visit, Render.walkAll_withRoles]

end Csv.Writer

theorem Html.Outline.render_withRoles (config : Config) (delegate : Delegate) :
    render config delegate (source.withRoles answers) = render config delegate source := by
  have same : visit delegate (source.withRoles answers) = visit delegate source := by
    unfold visit
    rw [Render.ask_withRoles]
  rw [render, render, same, Render.walkAll_withRoles]

end TreeTable

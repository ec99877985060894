import TreeTable.Proofs.Html.Lookups

namespace TreeTable

variable {ν α β : Type} {failed : Failure → Prop}

/-! ## Runs that are the same unless the first one fails -/

def SameUnless (failed : Failure → Prop) (outcome outcome' : Except Failure α) : Prop :=
  outcome' = outcome ∨ ∃ failure, failed failure ∧ outcome = .error failure

namespace SameUnless

theorem refl (outcome : Except Failure α) : SameUnless failed outcome outcome := .inl rfl

theorem bind {first first' : Except Failure α} {next next' : α → Except Failure β}
    (same : SameUnless failed first first')
    (goes : ∀ answer, SameUnless failed (next answer) (next' answer)) :
    SameUnless failed (first >>= next) (first' >>= next') := by
  obtain rfl | ⟨failure, isFailed, rfl⟩ := same
  · cases first' with
    | error failure => exact refl _
    | ok answer => exact goes answer
  · exact .inr ⟨failure, isFailed, rfl⟩

end SameUnless

namespace Render

def AlikeUnless (failed : Failure → Prop) (steps steps' : Render α) : Prop :=
  ∀ before, steps' before = steps before ∨
    ∃ failure after, failed failure ∧ steps before = .error failure after

namespace AlikeUnless

theorem refl (steps : Render α) : AlikeUnless failed steps steps := fun _ => .inl rfl

theorem bind {first first' : Render α} {next next' : α → Render β}
    (alike : AlikeUnless failed first first')
    (goes : ∀ answer, AlikeUnless failed (next answer) (next' answer)) :
    AlikeUnless failed (first >>= next) (first' >>= next') := by
  intro before
  simp only [Bind.bind, EStateM.bind]
  obtain same | ⟨failure, after, isFailed, ran⟩ := alike before
  · rw [same]
    cases first before with
    | error failure after => exact .inl rfl
    | ok answer after => exact goes answer after
  · rw [ran]
    exact .inr ⟨failure, after, isFailed, rfl⟩

theorem of_bind {outcome outcome' : Except Failure α} {next next' : α → Render β}
    (same : SameUnless failed outcome outcome')
    (goes : ∀ answer, outcome = .ok answer → AlikeUnless failed (next answer) (next' answer)) :
    AlikeUnless failed (Step.of outcome >>= next) (Step.of outcome' >>= next') := by
  obtain rfl | ⟨failure, isFailed, rfl⟩ := same
  · cases outcome' with
    | error failure => exact fun _ => .inl rfl
    | ok answer => exact goes answer rfl
  · exact fun before => .inr ⟨failure, before, isFailed, rfl⟩

theorem goOn (steps : Render α) {next next' : α → Render β}
    (goes : ∀ answer, AlikeUnless failed (next answer) (next' answer)) :
    AlikeUnless failed (steps >>= next) (steps >>= next') := (refl steps).bind goes

variable {visit visit' : Event ν → Render Unit}

theorem cells {parent : Option ν} {row : Nat} {depth : Int} {column left : Nat}
    (alike : ∀ index, column ≤ index → index < column + left → AlikeUnless failed
      (visit (.cell parent row index depth)) (visit' (.cell parent row index depth))) :
    AlikeUnless failed (Walk.cells visit parent row depth column left)
      (Walk.cells visit' parent row depth column left) := by
  induction left generalizing column with
  | zero => exact refl _
  | succ left ih =>
    rw [Walk.cells, Walk.cells]
    exact (alike column (Nat.le_refl _) (by omega)).bind fun _ =>
      ih fun index from' within => alike index (by omega) (by omega)

theorem performAll {acts : List (Walk.Act ν)}
    (alike : ∀ act ∈ acts, AlikeUnless failed (act.perform visit) (act.perform visit')) :
    AlikeUnless failed (Walk.Act.performAll visit acts) (Walk.Act.performAll visit' acts) := by
  induction acts with
  | nil => exact refl _
  | cons act rest ih =>
    obtain ⟨first, others⟩ := List.forall_mem_cons.mp alike
    rw [Walk.Act.performAll, Walk.Act.performAll]
    exact first.bind fun _ => ih others

theorem walkAll {config : Config} {source : Source ν} {recursive : Bool} {budget : Option Budget}
    (alike : ∀ deepest, Walk.ceiling config.maxDepth = .ok deepest →
      ∀ act ∈ (Walk.script source none 0 recursive deepest budget).acts,
        AlikeUnless failed (act.perform visit) (act.perform visit')) :
    AlikeUnless failed (walkAll config source visit recursive budget)
      (walkAll config source visit' recursive budget) := by
  rw [walkAll_eq, walkAll_eq]
  exact of_bind (.refl _) fun deepest limited =>
    (performAll (alike deepest limited)).bind fun _ => refl _

end AlikeUnless

end Render

/-! ## Answers about roles -/

/-- An answer that stands for the given one, `nothing` where this is a failure to find something. A
given failure of another kind may be answered in any way if it is among the failures that count. -/
inductive StandsFor (failed : Failure → Prop) (nothing : α) (given : Except Failure α) :
    Except Failure α → Prop
  | same : StandsFor failed nothing given given
  | absent {failure : Failure} (fails : given = .error failure) (absence : failure.isAbsence) :
    StandsFor failed nothing given (.ok nothing)
  | failed {failure : Failure} {answer : Except Failure α} (fails : given = .error failure)
    (present : failure.isAbsence = false) (isFailed : failed failure) :
    StandsFor failed nothing given answer

theorem StandsFor.map {nothing : α} {given answer : Except Failure α} (change : α → β)
    (stands : StandsFor failed nothing given answer) :
    StandsFor failed (change nothing) (change <$> given) (change <$> answer) := by
  cases stands with
  | same => exact .same
  | absent fails absence =>
    rw [fails]
    exact .absent rfl absence
  | failed fails present isFailed =>
    rw [fails]
    exact .failed rfl present isFailed

theorem Source.decoration_same {lookup lookup' : Value → Except Failure String}
    {name : Option Value}
    (stands : ∀ role, name = some role → StandsFor failed "" (lookup role) (lookup' role)) :
    SameUnless failed (decoration lookup name) (decoration lookup' name) := by
  cases name with
  | none => exact .refl _
  | some role =>
    rw [decoration, decoration]
    have answer := stands role rfl
    generalize lookup role = given at answer ⊢
    generalize lookup' role = given' at answer ⊢
    cases answer with
    | same => exact .refl _
    | absent fails absence =>
      rw [fails]
      exact .inl (if_pos absence).symm
    | failed fails present isFailed =>
      rw [fails]
      exact .inr ⟨_, isFailed, if_neg (ne_true_of_eq_false present)⟩

structure RoleAnswers.StandFor (failed : Failure → Prop) (asked : RoleQuestion ν → Prop)
    (given answers : RoleAnswers ν) : Prop where
  cell : ∀ node role, asked (.cell node role) →
    StandsFor failed none (given.cell node role) (answers.cell node role)
  header : ∀ axis index role, asked (.header axis index role) →
    StandsFor failed .null (given.header axis index role) (answers.header axis index role)

namespace Html

open Render Walk

variable {source : Source ν} {answers : RoleAnswers ν}

section

variable {asked : RoleQuestion ν → Prop} (stand : source.roles.StandFor failed asked answers)

include stand

theorem role_same {node : ν} {name : Option Value}
    (asks : ∀ wanted, name = some wanted → asked (.cell node wanted)) :
    SameUnless failed (role source node name) (role (source.withRoles answers) node name) := by
  refine Source.decoration_same fun wanted named => ?_
  have stands := (stand.cell node wanted (asks wanted named)).map fun answer => answer.getD ""
  rwa [map_eq_pure_bind, map_eq_pure_bind] at stands

theorem headerRole_same {axis : Axis} {index : Nat} {name : Option Value}
    (asks : ∀ wanted, name = some wanted → asked (.header axis (.int index) wanted)) :
    SameUnless failed (headerRole source axis index name)
      (headerRole (source.withRoles answers) axis index name) :=
  Source.decoration_same fun wanted named =>
    (stand.header axis (.int index) wanted (asks wanted named)).map Value.cellText

theorem decorated_alike (config : Config) (delegate : Delegate) {parent : Option ν}
    {row column : Value} (asks : ∀ node, source.cell row column parent = .ok node →
      ∀ wanted, TextRole config source node wanted → asked (.cell node wanted)) :
    AlikeUnless failed (decorated config delegate source parent row column)
      (decorated config delegate (source.withRoles answers) parent row column) := by
  unfold decorated
  rw [Render.ask_withRoles]
  refine .of_bind (.refl _) fun node found => .goOn _ fun text => ?_
  have markup : ∀ address className, AlikeUnless failed
      (Step.of (role source node config.htmlPrefixRole) >>= fun markup =>
        pure (markup ++ linked text address className))
      (Step.of (role (source.withRoles answers) node config.htmlPrefixRole) >>= fun markup =>
        pure (markup ++ linked text address className)) := fun address className =>
    .of_bind (role_same stand fun _ configured => asks node found _ (.markup configured))
      fun markup _ => .refl _
  refine .of_bind (role_same stand fun _ configured => asks node found _ (.link configured))
    fun address answered => ?_
  dsimp only
  by_cases bare : address.isEmpty = true
  · rw [if_pos bare, if_pos bare]
    exact .goOn _ fun className => markup address className
  · rw [if_neg bare, if_neg bare]
    have linked : address ≠ "" := fun same => bare (String.isEmpty_iff.mpr same)
    exact .of_bind (role_same stand fun _ configured =>
      asks node found _ (.linkClass configured answered linked)) fun className _ =>
        markup address className

end

variable {config : Config} (delegate : Delegate)

theorem Inline.render_alike
    (stand : source.roles.StandFor failed (Asks config source) answers) :
    AlikeUnless failed (render config delegate source)
      (render config delegate (source.withRoles answers)) := by
  rw [render, render, walkAll_withRoles]
  refine (AlikeUnless.walkAll fun deepest limited act performed => ?_).bind fun _ => .refl _
  cases act with
  | enter | close | leave => exact .refl _
  | row row columns =>
    have among : row ∈ (script source none 0 false deepest none).rows :=
      List.mem_filterMap.mpr ⟨_, performed, rfl⟩
    have item := decorated_alike stand config delegate fun node found _ asked =>
      .item limited among found asked
    have nothing : AlikeUnless failed
        (cells (visit config delegate source) row.parent row.number row.depth 0 columns)
        (cells (visit config delegate (source.withRoles answers)) row.parent row.number row.depth 0
          columns) := .cells fun _ _ _ => .refl _
    exact (item.bind fun _ => .refl _).bind fun _ => nothing.bind fun _ => .refl _

namespace Table

theorem headerCells_same {asked : RoleQuestion ν → Prop}
    (stand : source.roles.StandFor failed asked answers) {column left : Nat}
    (asks : ∀ index, column ≤ index → index < column + left → ∀ wanted,
      config.htmlPrefixRole = some wanted → asked (.header .column (.int index) wanted)) :
    SameUnless failed (headerCells config delegate source column left)
      (headerCells config delegate (source.withRoles answers) column left) := by
  induction left generalizing column with
  | zero => exact .refl _
  | succ left ih =>
    have markup := headerRole_same stand (asks column (Nat.le_refl _) (by omega))
    rw [headerCells, headerCells, Delegate.headerText_withRoles]
    exact markup.bind fun _ => (SameUnless.refl _).bind fun header =>
      (ih fun index from' within => asks index (by omega) (by omega)).bind fun _ => .refl _

section

variable (stand : source.roles.StandFor failed (Asks config source) answers)

include stand

theorem head_same {columns : Int} (width : source.columnCount none = .ok columns) :
    SameUnless failed (head config delegate source columns.toNat)
      (head config delegate (source.withRoles answers) columns.toNat) := by
  have header : SameUnless failed
      (if config.columnHeaders then headerRow config delegate source columns.toNat else .ok "")
      (if config.columnHeaders then
        headerRow config delegate (source.withRoles answers) columns.toNat else .ok "") := by
    by_cases headed : config.columnHeaders = true
    · rw [if_pos headed, if_pos headed]
      have cells : SameUnless failed (headerCells config delegate source 0 columns.toNat)
          (headerCells config delegate (source.withRoles answers) 0 columns.toNat) :=
        headerCells_same delegate stand fun index _ within _ configured =>
          .columnHeader headed width (by omega) configured
      exact cells.bind fun _ => .refl _
    · rw [if_neg headed, if_neg headed]
      exact .refl _
  exact header.bind fun _ => .refl _

theorem opening_alike {row : Row ν} (shown : Shows config source row) :
    AlikeUnless failed
      (visit config delegate source (.beginRow row.parent row.number row.depth))
      (visit config delegate (source.withRoles answers)
        (.beginRow row.parent row.number row.depth)) := by
  refine .of_bind (.refl _) fun first found => ?_
  refine .of_bind (role_same stand fun _ configured => .rowClass shown found configured)
    fun className _ => .goOn _ fun _ => ?_
  by_cases headed : config.rowHeaders = true
  · rw [if_pos headed, if_pos headed]
    have markup := headerRole_same stand fun _ configured => .rowHeader shown headed configured
    unfold rowHeader
    rw [Delegate.headerText_withRoles]
    exact .of_bind (markup.bind fun _ => .refl _) fun header _ => .refl _
  · rw [if_neg headed, if_neg headed]
    exact .refl _

theorem cell_alike {row : Row ν} {columns column : Nat} (shown : Shows config source row)
    (width : source.columns row.parent = .ok columns) (within : column < columns) :
    AlikeUnless failed
      (visit config delegate source (.cell row.parent row.number column row.depth))
      (visit config delegate (source.withRoles answers)
        (.cell row.parent row.number column row.depth)) := by
  refine .of_bind (.refl _) fun node found => ?_
  refine .of_bind (role_same stand fun _ configured =>
    .cell shown width within found (.inl configured)) fun className _ => ?_
  have text := decorated_alike stand config delegate fun node found _ asked =>
    .cell shown width within found (.inr asked)
  exact text.bind fun _ => .refl _

theorem body_alike (begins : source.rowCount none ≠ .ok 0) :
    AlikeUnless failed (body config delegate source)
      (body config delegate (source.withRoles answers)) := by
  unfold body
  refine .of_bind (.refl _) fun cap capped => ?_
  rw [walkAll_withRoles]
  refine (AlikeUnless.walkAll fun deepest limited act performed => ?_).bind fun _ => .refl _
  cases act with
  | enter | close | leave => exact .refl _
  | row row columns =>
    have shown : Shows config source row :=
      ⟨begins, cap, deepest, capped, limited, List.mem_filterMap.mpr ⟨_, performed, rfl⟩⟩
    have width := script_counted source none 0 true deepest _ _ performed
    exact (opening_alike delegate stand shown).bind fun _ =>
      (AlikeUnless.cells fun index _ within =>
        cell_alike delegate stand shown width (by omega)).bind fun _ => .refl _

theorem render_alike :
    AlikeUnless failed (render config delegate source)
      (render config delegate (source.withRoles answers)) := by
  rw [render_eq, render_eq]
  refine .of_bind (.refl _) fun columns width =>
    .of_bind (head_same delegate stand width) fun opening _ =>
      .of_bind (.refl _) fun rows height => ?_
  by_cases nothing : rows = 0
  · rw [if_pos nothing, if_pos nothing]
    exact .refl _
  · rw [if_neg nothing, if_neg nothing]
    have begins : source.rowCount none ≠ .ok 0 :=
      fun same => nothing (Except.ok.inj (height.symm.trans same))
    exact (body_alike delegate stand begins).bind fun _ => .refl _

end

end Table

end Html

namespace Serializer

variable {source : Source ν} {answers : RoleAnswers ν}

theorem render_alike (serializer : Serializer)
    (stand : source.roles.StandFor failed (serializer.Asks source) answers) :
    Render.AlikeUnless failed (serializer.render source)
      (serializer.render (source.withRoles answers)) := by
  obtain ⟨format, config, delegate⟩ := serializer
  cases format with
  | csv | csvTree =>
    simp only [render, Csv.Writer.render_withRoles]
    exact .refl _
  | htmlSet => exact (Html.Inline.render_alike delegate stand).bind fun _ => .refl _
  | htmlList =>
    simp only [render, Html.Outline.render_withRoles]
    exact .refl _
  | htmlTable => exact (Html.Table.render_alike delegate stand).bind fun _ => .refl _

theorem rendering_alike (serializer : Serializer)
    (stand : source.roles.StandFor failed (serializer.Asks source) answers)
    (refusal : Nat → Option Failure) :
    serializer.rendering refusal (source.withRoles answers) =
        serializer.rendering refusal source ∨
      ∃ failure, failed failure ∧
        (serializer.rendering refusal source).outcome = .error failure := by
  unfold rendering
  obtain same | ⟨failure, after, isFailed, ran⟩ := serializer.render_alike stand { refusal }
  · rw [same]
    exact .inl rfl
  · rw [ran]
    exact .inr ⟨failure, isFailed, rfl⟩

end Serializer

/-! ## Lookups that fail -/

structure RoleAnswers.Forgive (given answers : RoleAnswers ν) : Prop where
  cell : ∀ node role, answers.cell node role = given.cell node role ∨
    (∃ failure, given.cell node role = .error failure ∧ failure.isAbsence = true) ∧
      answers.cell node role = .ok none
  header : ∀ axis index role, answers.header axis index role = given.header axis index role ∨
    (∃ failure, given.header axis index role = .error failure ∧ failure.isAbsence = true) ∧
      answers.header axis index role = .ok .null

namespace RoleAnswers

variable {asked : RoleQuestion ν → Prop} {given answers : RoleAnswers ν}

theorem Forgive.standFor (forgive : given.Forgive answers) :
    given.StandFor (fun _ => False) asked answers := by
  refine ⟨fun node role _ => ?_, fun axis index role _ => ?_⟩
  · obtain same | ⟨⟨failure, fails, absence⟩, nothing⟩ := forgive.cell node role
    · exact same ▸ .same
    · exact nothing ▸ .absent fails absence
  · obtain same | ⟨⟨failure, fails, absence⟩, nothing⟩ := forgive.header axis index role
    · exact same ▸ .same
    · exact nothing ▸ .absent fails absence

theorem AgreeOn.standFor (agree : given.AgreeOn asked answers) :
    given.StandFor (fun _ => False) asked answers where
  cell node role asks := agree.cell node role asks ▸ .same
  header axis index role asks := agree.header axis index role asks ▸ .same

theorem SameBut.standFor {question : RoleQuestion ν} {failure : Failure}
    (same : given.SameBut question answers) (fails : given.Fail failure question)
    (present : failure.isAbsence = false) : given.StandFor (· = failure) asked answers := by
  refine ⟨fun node role _ => ?_, fun axis index role _ => ?_⟩
  · by_cases asked : .cell node role = question
    · subst asked
      exact .failed fails present rfl
    · exact same.cell node role asked ▸ .same
  · by_cases asked : .header axis index role = question
    · subst asked
      exact .failed fails present rfl
    · exact same.header axis index role asked ▸ .same

end RoleAnswers

namespace Serializer

/-- A render looks something up if it can come to something else by another answer to it, be that a
failure. -/
def LooksUp (serializer : Serializer) (refusal : Nat → Option Failure) (source : Source ν)
    (question : RoleQuestion ν) : Prop :=
  ∃ answers, source.roles.SameBut question answers ∧
    serializer.rendering refusal (source.withRoles answers) ≠ serializer.rendering refusal source

theorem asks_of_looksUp {serializer : Serializer} {refusal : Nat → Option Failure}
    {source : Source ν} {question : RoleQuestion ν}
    (looksUp : serializer.LooksUp refusal source question) : serializer.Asks source question := by
  obtain ⟨answers, same, differs⟩ := looksUp
  by_contra unasked
  have agree : source.roles.AgreeOn (serializer.Asks source) answers :=
    ⟨fun node role asks => same.cell node role fun asked => unasked (asked ▸ asks),
      fun axis index role asks => same.header axis index role fun asked => unasked (asked ▸ asks)⟩
  obtain alike | ⟨failure, none, -⟩ := serializer.rendering_alike agree.standFor refusal
  · exact differs alike
  · exact none.elim

theorem looksUp_iff {serializer : Serializer} {refusal : Nat → Option Failure} {source : Source ν}
    {question : RoleQuestion ν} {text : Value}
    (returns : (serializer.rendering refusal source).outcome = .ok text) :
    serializer.LooksUp refusal source question ↔ serializer.Asks source question := by
  refine ⟨asks_of_looksUp, fun asks => ?_⟩
  obtain ⟨answers, same, fails⟩ := source.roles.exists_failing question (.raised .badValue "")
  refine ⟨answers, same, fun alike => ?_⟩
  have returns' : (serializer.rendering refusal (source.withRoles answers)).outcome = .ok text := by
    rw [alike, returns]
  have absence := settles_of_returns returns' (asks.withRoles same) _ fails
  cases absence

/-- Roles that cannot be found are as good as roles that are not there. Where a render looks a role
up, any other failure to answer is what the render fails with. A render that comes out has looked up
the roles of all that it shows, and no others. -/
theorem rendering_of_failing_roles (serializer : Serializer) (source : Source ν)
    (refusal : Nat → Option Failure) :
    (∀ answers, source.roles.Forgive answers →
      serializer.rendering refusal (source.withRoles answers) =
        serializer.rendering refusal source) ∧
    (∀ question, serializer.LooksUp refusal source question → ∀ answers failure,
      source.roles.SameBut question answers → answers.Fail failure question →
        failure.isAbsence = false →
          (serializer.rendering refusal (source.withRoles answers)).outcome = .error failure) ∧
    ∀ text, (serializer.rendering refusal source).outcome = .ok text → ∀ question,
      serializer.LooksUp refusal source question ↔ serializer.Asks source question := by
  refine ⟨?_, ?_, fun text returns question => looksUp_iff returns⟩
  · intro answers forgive
    obtain same | ⟨failure, none, -⟩ := serializer.rendering_alike forgive.standFor refusal
    · exact same
    · exact none.elim
  · intro question looksUp answers failure sameBut fails present
    obtain ⟨others, sameBut', differs⟩ := looksUp
    -- if it did not fail, it would be the same render for both of the other answers
    have comes : ∀ others, source.roles.SameBut question others →
        (serializer.rendering refusal (source.withRoles answers)).outcome = .error failure ∨
          serializer.rendering refusal (source.withRoles others) =
            serializer.rendering refusal (source.withRoles answers) := by
      intro others sameBut'
      have stand : (source.withRoles answers).roles.StandFor (· = failure)
          (serializer.Asks (source.withRoles answers)) others :=
        (sameBut.both sameBut').standFor fails present
      obtain same | ⟨found, rfl, failed⟩ := serializer.rendering_alike stand refusal
      · exact .inr same
      · exact .inl failed
    obtain failed | same := comes others sameBut'
    · exact failed
    · obtain failed | same' := comes source.roles (.refl _)
      · exact failed
      · rw [Source.withRoles_roles] at same'
        exact absurd (same.trans same'.symm) differs

def oneRow : Tree where
  headers := #["N"]
  items := [⟨#[.text "a"], [], []⟩]

def withIcons : Serializer where
  format := .htmlTable
  config := { htmlPrefixRole := some (.text "icon"), linkRole := some (.text "link") }

def lost : Faults where
  role := some (.raised .unknownKey "lost")
  headerRole := some (.raised .noSuchField "lost")

def icon (answer : Except Failure Value) : RoleAnswers TreeCell where
  cell _ _ := .ok none
  header axis index role :=
    match axis, index, role with
    | .column, .int 0, .text "icon" => answer
    | _, _, _ => .ok .null

theorem sameBut_icon (answer answer' : Except Failure Value) :
    (icon answer).SameBut (.header .column (.int 0) (.text "icon")) (icon answer') := by
  refine ⟨fun _ _ _ => rfl, fun axis index role other => ?_⟩
  unfold icon
  dsimp only
  split
  · exact absurd rfl other
  · rfl

theorem rendering_of_lost_and_broken_roles :
    (withIcons.rendering (fun _ => none) (oneRow.faultySource lost)).outcome =
        .ok (.text "<table>\n<tr><th>N</th></tr>\n<tr><td>a</td></tr>\n</table>\n") ∧
      (withIcons.rendering (fun _ => none)
        (oneRow.source.withRoles (icon (.error (.raised .badValue "broken"))))).outcome =
          .error (.raised .badValue "broken") := by
  constructor
  · have forgive : (oneRow.faultySource lost).roles.Forgive
        ⟨fun _ _ => .ok none, fun _ _ _ => .ok .null⟩ :=
      ⟨fun _ _ => .inr ⟨⟨_, rfl, rfl⟩, rfl⟩, fun _ _ _ => .inr ⟨⟨_, rfl, rfl⟩, rfl⟩⟩
    have same := (rendering_of_failing_roles withIcons (oneRow.faultySource lost)
      fun _ => none).1 _ forgive
    rw [← same]
    rfl
  · have bare : (withIcons.rendering (fun _ => none)
        (oneRow.source.withRoles (icon (.ok .null)))).outcome =
          .ok (.text "<table>\n<tr><th>N</th></tr>\n<tr><td>a</td></tr>\n</table>\n") := rfl
    obtain ⟨-, breaks, looks⟩ := rendering_of_failing_roles withIcons
      (oneRow.source.withRoles (icon (.ok .null))) fun _ => none
    have asks : withIcons.Asks (oneRow.source.withRoles (icon (.ok .null)))
        (.header .column (.int 0) (.text "icon")) :=
      Html.Table.Asks.columnHeader rfl rfl (by decide : 0 < (1 : Int).toNat) rfl
    have looksUp := (looks _ bare _).mpr asks
    exact breaks _ looksUp (icon (.error (.raised .badValue "broken"))) _ (sameBut_icon _ _) rfl rfl

end Serializer

end TreeTable

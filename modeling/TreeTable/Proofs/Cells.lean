import TreeTable.Proofs.Header
import TreeTable.Proofs.Html.Outline

namespace TreeTable

open Walk

variable {ν : Type}

structure Config.SuitsCells (config : Config) : Prop extends config.Suited where
  linkRole : ∀ role ∈ config.linkRole, role.IsText
  linkClassRole : ∀ role ∈ config.linkClassRole, role.IsText
  rowClassRole : ∀ role ∈ config.rowClassRole, role.IsText
  cellClassRole : ∀ role ∈ config.cellClassRole, role.IsText

structure Affix.SuitsCells (affix : Affix) : Prop where
  argument : ∀ column ∈ affix.argument, ∃ number, column = .int number
  transcode : ∀ entry ∈ affix.transcode, entry.2.IsText

structure MarkupStyle.SuitsCells (style : MarkupStyle) : Prop extends style.Suited where
  affixes : ∀ affixes ∈ [style.front, style.back], ∀ entry ∈ affixes.columns ++ affixes.rows,
    entry.2.SuitsCells

def Delegate.SuitsCells : Delegate → Prop
  | .plain => True
  | .markup style => style.SuitsCells
  | .own texts => (∀ row column, (texts.text row column).Answers) ∧
      ∀ axis index, (texts.headerText axis index).Answers

theorem Delegate.SuitsCells.suited {delegate : Delegate} (suits : delegate.SuitsCells) :
    delegate.Suited := by
  cases delegate with
  | plain => exact trivial
  | markup style => exact suits.toSuited
  | own texts => exact suits.2

def Source.AnswersAt (source : Source ν) (parent : Option ν) (row : Nat) : Prop :=
  ∀ column : Int, Answers (fun node => Answers (fun _ => True) (source.text node none) ∧
    ∀ role : String, Answers (fun _ => True) (source.text node (some (.text role))))
    (source.cell (.int row) (.int column) parent)

variable {source : Source ν} {parent : Option ν} {row : Nat}

theorem Source.AnswersAt.shown (answers : source.AnswersAt parent row) (column : Int) :
    Answers (fun _ => True) (source.shown (.int row) (.int column) parent) :=
  (answers column).bind fun _ ⟨text, _⟩ => text.bind fun _ _ => .ok trivial

namespace Affix

variable {affix : Affix}

theorem SuitsCells.transcoded (suits : affix.SuitsCells) (argument : String) :
    (affix.transcoded argument).IsText := by
  unfold Affix.transcoded
  split
  · exact ⟨argument, rfl⟩
  · cases found : Entries.value? affix.transcode (.text argument) with
    | none => exact ⟨"", rfl⟩
    | some text =>
      obtain ⟨key, among⟩ := Entries.exists_mem_of_value? found
      exact suits.transcode (key, text) among

theorem render_answers (suits : affix.SuitsCells) (html : affix.html.IsText)
    (answers : source.AnswersAt parent row) :
    Answers Value.IsText (affix.render source parent (.int row)) := by
  unfold render
  cases given : affix.argument with
  | none => exact .ok html
  | some column =>
    obtain ⟨number, rfl⟩ := suits.argument column given
    obtain ⟨text, whole⟩ := html
    refine (answers.shown number).bind fun argument _ => ?_
    rw [whole]
    exact (suits.transcoded argument).asText.bind fun filling _ => .ok ⟨_, rfl⟩

end Affix

namespace MarkupStyle

variable {style : MarkupStyle}

theorem SuitsCells.of_value? (suits : style.SuitsCells) {affixes : Affixes}
    (side : affixes ∈ [style.front, style.back]) {entries : Entries Value Affix}
    (part : entries = affixes.columns ∨ entries = affixes.rows) {position : Value} {affix : Affix}
    (found : entries.value? position = some affix) : affix.SuitsCells ∧ affix.html.IsText := by
  obtain ⟨key, among⟩ := Entries.exists_mem_of_value? found
  have whole : (key, affix) ∈ affixes.columns ++ affixes.rows := by
    rcases part with rfl | rfl
    · exact List.mem_append_left _ among
    · exact List.mem_append_right _ among
  exact ⟨suits.affixes affixes side _ whole, suits.htmls affixes side _ whole⟩

theorem SuitsCells.around (suits : style.SuitsCells) (row column : Value) :
    (∀ affix, some affix ∈ (style.around row column).1 → affix.SuitsCells ∧ affix.html.IsText) ∧
    ∀ affix, some affix ∈ (style.around row column).2 →
      affix.SuitsCells ∧ affix.html.IsText := by
  have front : style.front ∈ [style.front, style.back] := List.mem_cons_self
  have back : style.back ∈ [style.front, style.back] := List.mem_cons_of_mem _ List.mem_cons_self
  constructor
  · intro affix among
    simp only [MarkupStyle.around, List.mem_cons, List.not_mem_nil, or_false] at among
    rcases among with found | found | found | found
    · exact suits.of_value? front (.inl rfl) found.symm
    · exact suits.of_value? front (.inl rfl) found.symm
    · exact suits.of_value? front (.inr rfl) found.symm
    · exact suits.of_value? front (.inr rfl) found.symm
  · intro affix among
    simp only [MarkupStyle.around, List.mem_cons, List.not_mem_nil, or_false] at among
    rcases among with found | found | found | found
    · exact suits.of_value? back (.inr rfl) found.symm
    · exact suits.of_value? back (.inr rfl) found.symm
    · exact suits.of_value? back (.inl rfl) found.symm
    · exact suits.of_value? back (.inl rfl) found.symm

theorem renderAll_answers (answers : source.AnswersAt parent row) {affixes : List (Option Affix)}
    (suits : ∀ affix, some affix ∈ affixes → affix.SuitsCells ∧ affix.html.IsText) :
    Answers (fun _ => True) (renderAll source parent (.int row) affixes) := by
  have rendered : ∀ affix ∈ affixes.filterMap id,
      Answers Value.IsText (affix.render source parent (.int row)) := by
    intro affix among
    obtain ⟨suits, html⟩ := suits affix (by simpa using among)
    exact Affix.render_answers suits html answers
  refine (Answers.mapM rendered).bind fun parts areTexts => ?_
  exact (Answers.mapM fun part among => (areTexts part among).asText).bind fun _ _ => .ok trivial

end MarkupStyle

namespace Delegate

variable {delegate : Delegate}

theorem text_answers (suits : delegate.SuitsCells) (answers : source.AnswersAt parent row)
    (column : Nat) :
    Answers (fun _ => True) (delegate.text source parent (.int row) (.int column)) := by
  have shown := answers.shown column
  cases delegate with
  | plain => exact shown
  | own texts =>
    obtain ⟨text, told⟩ := (suits.1 (.int row) (.int column)).run source parent
    exact ⟨text, told, trivial⟩
  | markup style =>
    refine shown.bind fun shown _ => ?_
    obtain ⟨limit, whole⟩ := MarkupStyle.Suited.length suits.toSuited
    have around := MarkupStyle.SuitsCells.around suits (.int row) (.int column)
    dsimp only
    rw [MarkupStyle.convertText_of_int whole, ok_bind]
    refine (MarkupStyle.renderAll_answers answers around.1).bind fun front _ => ?_
    exact (MarkupStyle.renderAll_answers answers around.2).bind fun back _ => .ok trivial

def headerAffix (affixes : Affixes) (source : Source ν) (index : Value) :
    Except Failure (Option Value) :=
  (affixes.rows.value? headerPosition).mapM fun affix => affix.render source none index

theorem headerText_row (style : MarkupStyle) (source : Source ν) (index : Value) :
    (markup style).headerText source .row index =
      source.headerShown .row index >>= fun shown => style.convert shown >>= fun text =>
        headerAffix style.front source index >>= fun front => behind front text >>= fun text =>
          headerAffix style.back source index >>= fun back => before back text := by
  unfold headerText headerAffix
  refine congrArg (source.headerShown .row index >>= ·) (funext fun shown => ?_)
  refine congrArg (style.convert shown >>= ·) (funext fun text => ?_)
  refine congrArg (_ >>= ·) (funext fun front => ?_)
  cases front with
  | none => exact congrArg (_ >>= ·) (funext fun back => by cases back <;> rfl)
  | some front =>
    refine congrArg (withFront front text >>= ·) (funext fun text => ?_)
    exact congrArg (_ >>= ·) (funext fun back => by cases back <;> rfl)

theorem headerAffix_answers {style : MarkupStyle} (suits : style.SuitsCells)
    (answers : source.AnswersAt none row) {affixes : Affixes}
    (side : affixes ∈ [style.front, style.back]) :
    Answers (fun given : Option Value => ∀ html ∈ given, html.IsText)
      (headerAffix affixes source (.int row)) := by
  unfold headerAffix
  cases found : affixes.rows.value? headerPosition with
  | none => exact .ok nofun
  | some affix =>
    obtain ⟨suits, html⟩ := suits.of_value? side (.inr rfl) found
    obtain ⟨given, rendered, isText⟩ := Affix.render_answers suits html answers
    refine ⟨some given, ?_, fun html same => Option.some.inj same ▸ isText⟩
    exact congrArg (Functor.map some) rendered

theorem headerText_row_answers (suits : delegate.SuitsCells) (headers : source.AnswersHeaders)
    (answers : source.AnswersAt none row) :
    Answers Value.IsText (delegate.headerText source .row (.int row)) := by
  have shown := headerShown_answers headers .row row
  cases delegate with
  | plain => exact shown
  | own texts => exact own_headerText_answers (suits.2 .row (.int row)) source
  | markup style =>
    have front := headerAffix_answers suits answers List.mem_cons_self
    have back := headerAffix_answers suits answers (List.mem_cons_of_mem _ List.mem_cons_self)
    rw [headerText_row]
    refine shown.bind fun shown isText => ?_
    obtain ⟨text, rfl⟩ := isText
    refine (MarkupStyle.Suited.convert suits.toSuited text).bind fun text isText => ?_
    refine front.bind fun given areTexts => (behind_answers areTexts isText).bind fun text isText =>
      back.bind fun given areTexts => before_answers areTexts isText

end Delegate

namespace Html

variable {config : Config} {delegate : Delegate}

theorem role_answers {node : ν} (roles : ∀ role : String,
      Answers (fun _ => True) (source.text node (some (.text role))))
    {name : Option Value} (isText : ∀ role ∈ name, role.IsText) :
    Answers (fun _ => True) (role source node name) := by
  cases name with
  | none => exact .ok trivial
  | some role =>
    obtain ⟨role, rfl⟩ := isText role rfl
    obtain ⟨answer, given, -⟩ := roles role
    rw [Html.role, Source.decoration, given]
    exact .ok trivial

theorem decoratedText_answers (suits : config.SuitsCells) (suits' : delegate.SuitsCells)
    (answers : source.AnswersAt parent row) (column : Nat) :
    Answers (fun _ => True)
      (decoratedText config delegate source parent (.int row) (.int column)) := by
  refine (answers column).bind fun node ⟨_, roles⟩ => ?_
  refine (Delegate.text_answers suits' answers column).bind fun text _ => ?_
  refine (role_answers roles suits.linkRole).bind fun address _ => ?_
  have linked' : ∀ className, Answers (fun _ => True) (role source node config.htmlPrefixRole >>=
      fun markup => .ok (markup ++ linked text address className) : Except Failure String) :=
    fun className => (role_answers roles suits.htmlPrefixRole).bind fun _ _ => .ok trivial
  extract_lets written
  split
  · exact linked' ""
  · exact (role_answers roles suits.linkClassRole).bind fun className _ => linked' className

namespace Table

theorem rowMarkup_answers (suits : config.SuitsCells) (suits' : delegate.SuitsCells)
    (headers : source.AnswersHeaders) {row : Row ν} (top : source.AnswersAt none row.number)
    (answers : source.AnswersAt row.parent row.number)
    (width : Answers (fun _ => True) (source.columns row.parent)) :
    Answers (fun _ => True) (rowMarkup config delegate source row) := by
  have header : Answers (fun _ => True)
      (if config.rowHeaders then rowHeader config delegate source row.number else .ok "") := by
    split
    · exact (headerRole_answers headers .row row.number suits.htmlPrefixRole).bind fun _ _ =>
        (Delegate.headerText_row_answers suits' headers top).bind fun header isText =>
          isText.asText.bind fun _ _ => .ok trivial
    · exact .ok trivial
  have opening : Answers (fun _ => True) (rowOpening config delegate source row) :=
    (answers 0).bind fun first ⟨_, roles⟩ =>
      (role_answers roles suits.rowClassRole).bind fun _ _ => header.bind fun _ _ => .ok trivial
  have cell : ∀ column, Answers (fun _ => True) (cellMarkup config delegate source row column) :=
    fun column => (answers column).bind fun node ⟨_, roles⟩ =>
      (role_answers roles suits.cellClassRole).bind fun _ _ =>
        (decoratedText_answers suits suits' answers column).bind fun _ _ => .ok trivial
  exact width.bind fun columns _ => opening.bind fun _ _ =>
    (Answers.mapM fun column _ => cell column).bind fun _ _ => .ok trivial

end Table

end Html

theorem Csv.Writer.rowLine_answers {config : Config} {delegate : Delegate} {writer : Writer}
    (writes : writer.WritesFor config delegate) (suits : config.SuitsCells)
    (suits' : delegate.SuitsCells) (headers : source.AnswersHeaders) {row : Row ν}
    (top : source.AnswersAt none row.number) (answers : source.AnswersAt row.parent row.number)
    (width : Answers (fun _ => True) (source.columns row.parent)) :
    Answers (fun _ => True) (writer.rowLine source row) := by
  obtain ⟨rfl, rfl, separator, textual⟩ := writes
  have header : Answers (fun fields : List Value => ∀ field ∈ fields, field.IsText)
      (if writer.config.rowHeaders then writer.headerField source row else .ok []) := by
    split
    · refine (Delegate.headerText_row_answers suits' headers top).bind fun text isText => ?_
      exact (FieldFormat.write_answers textual isText).bind fun field isText =>
        .ok (List.forall_mem_singleton.mpr isText)
    · exact .ok (List.forall_mem_nil _)
  have cell : ∀ column, Answers Value.IsText (writer.cellField source row column) := fun column =>
    (Delegate.text_answers suits' answers column).bind fun text _ =>
      FieldFormat.write_answers textual ⟨_, rfl⟩
  have fields : Answers (fun fields : List Value => ∀ field ∈ fields, field.IsText)
      (writer.rowFields source row) :=
    width.bind fun columns _ => header.bind fun header areTexts =>
      (Answers.mapM fun column _ => cell column).bind fun cells areTexts' =>
        .ok (List.forall_mem_append.mpr ⟨areTexts, areTexts'⟩)
  exact fields.bind fun fields areTexts => (join_answers separator areTexts).bind fun line _ =>
    suits.recordSeparator.asText.bind fun _ _ => .ok trivial

theorem Html.Outline.pieces_answers {delegate : Delegate} (suits : delegate.SuitsCells)
    {act : Act ν} (answers : ∀ row ∈ act.row?, source.AnswersAt row.parent row.number) :
    Answers (fun _ => True) (pieces delegate source act) := by
  cases act with
  | enter | close | leave => exact .ok trivial
  | row row columns =>
    have cells : Answers (fun _ => True) (rowCells delegate source row columns) :=
      (Answers.mapM fun column _ => Delegate.text_answers suits (answers row rfl) column).comes
    exact cells.bind fun _ _ => .ok trivial

theorem Tree.answersAt {tree : Tree} {faults : Faults} (shown : faults.cell = none)
    (roles : faults.role = none) {parent : Option TreeCell}
    (stands : row < (tree.level faults.cyclic parent).length) :
    (tree.faultySource faults).AnswersAt parent row := by
  intro column
  have found : pick? (tree.level faults.cyclic parent) row =
      some (tree.level faults.cyclic parent)[row] := by
    rw [pick?, if_pos (Int.natCast_nonneg row), Int.toNat_natCast, List.getElem?_eq_getElem stands]
  have cell : (tree.faultySource faults).cell (.int row) (.int column) parent =
      .ok ⟨(tree.level faults.cyclic parent)[row], .int column⟩ := by
    simp only [faultySource, Value.asIndex, ok_bind, found]
    rfl
  refine ⟨_, cell, ?_, fun role => ?_⟩
  · simp only [faultySource, Option.isNone_none, if_true, shown, unlessFaulty]
    exact (Value.lookIn_answers column _).bind fun _ _ => .ok trivial
  · simp only [faultySource, Option.isNone_some, Bool.false_eq_true, if_false, roles, unlessFaulty]
    exact Roles.text_answers _ rfl column

end TreeTable

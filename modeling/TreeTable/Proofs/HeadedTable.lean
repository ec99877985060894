import TreeTable.Proofs.RowAffix
import TreeTable.Proofs.Walk.Reached

namespace TreeTable

open Walk Render

variable {ν : Type}

namespace Csv

def Writer.headedLine (writer : Writer) (source : Source ν)
    (header : Row ν → Except Failure Value) (row : Row ν) : Except Failure String := do
  let columns ← source.columns row.parent
  let field ← writer.field (← header row)
  let cells ← (List.range columns).mapM (writer.cellField source row)
  writer.record (field :: cells)

theorem Writer.rowLine_headed {writer : Writer} (headed : writer.config.rowHeaders = true)
    (source : Source ν) : writer.rowLine source = writer.headedLine source
      fun row => writer.delegate.headerText source .row (.int row.number) := by
  funext row
  unfold rowLine rowFields headedLine headerField
  rw [if_pos headed]
  simp only [bind_assoc, pure_bind, List.singleton_append]

/-- A nested table of delimited text whose rows have these headers. -/
def headedTable (config : Config) (delegate : Delegate) (source : Source ν)
    (header : Row ν → Except Failure Value) : Except Failure Value := do
  let writer ← Writer.ofConfig config delegate true
  let opening ← writer.head source
  rowByRow writer.config source (writer.headedLine source header) writer.nested none
    fun _ lines => .text (opening ++ lines)

theorem outcome_headed {config : Config} (headed : config.rowHeaders = true) (delegate : Delegate)
    (source : Source ν) :
    ((⟨.csvTree, config, delegate⟩ : Serializer).rendering (fun _ => none) source).outcome =
      headedTable config delegate source
        fun row => delegate.headerText source .row (.int row.number) := by
  refine ((rendering_comes config delegate source true _).1 fun _ => rfl).trans ?_
  unfold output headedTable
  cases made : Writer.ofConfig config delegate true with
  | error failure => rfl
  | ok writer =>
    obtain ⟨format, -, same⟩ := bind_eq_ok.mp made
    obtain rfl := Except.ok.inj same
    rw [ok_bind, ok_bind, Writer.rowLine_headed headed]

end Csv

theorem Csv.Writer.headedLine_fails (writer : Writer) {source : Source ν}
    {header : Row ν → Except Failure Value} {row : Row ν} {failure : Failure}
    (width : Answers (fun _ => True) (source.columns row.parent))
    (fails : header row = .error failure) :
    writer.headedLine source header row = .error failure := by
  obtain ⟨columns, width, -⟩ := width
  rw [headedLine, width, ok_bind, fails]
  rfl

namespace Html.Table

variable (config : Config) (delegate : Delegate) (source : Source ν)

def headedMarkup (header : Row ν → Except Failure Value) (row : Row ν) :
    Except Failure String := do
  let columns ← source.columns row.parent
  let first ← source.cell (.int row.number) (.int 0) row.parent
  let className ← role source first config.rowClassRole
  let markup ← headerRole source .row row.number config.htmlPrefixRole
  let text ← (← header row).asText
  let cells ← (List.range columns).mapM (cellMarkup config delegate source row)
  return "<tr" ++ classAttribute className ++ ">" ++ ("<th>" ++ markup ++ text ++ "</th>") ++
    (String.join cells ++ "</tr>\n")

theorem rowMarkup_headed {config : Config} (headed : config.rowHeaders = true) :
    rowMarkup config delegate source = headedMarkup config delegate source
      fun row => delegate.headerText source .row (.int row.number) := by
  funext row
  unfold rowMarkup rowOpening headedMarkup rowHeader
  rw [if_pos headed]
  simp only [bind_assoc, pure_bind]

theorem headedMarkup_fails {config : Config} (suits : config.SuitsCells) {source : Source ν}
    (headers : source.AnswersHeaders) {header : Row ν → Except Failure Value} {row : Row ν}
    {failure : Failure} (width : Answers (fun _ => True) (source.columns row.parent))
    (answers : source.AnswersAt row.parent row.number) (fails : header row = .error failure) :
    headedMarkup config delegate source header row = .error failure := by
  obtain ⟨columns, width, -⟩ := width
  obtain ⟨first, cell, -, roles⟩ := answers 0
  obtain ⟨className, classed, -⟩ := role_answers roles suits.rowClassRole
  obtain ⟨markup, marked, -⟩ :=
    headerRole_answers headers .row row.number suits.htmlPrefixRole
  have cell : source.cell (.int row.number) (.int 0) row.parent = .ok first := cell
  rw [headedMarkup, width, ok_bind, cell, ok_bind, classed, ok_bind, marked, ok_bind, fails]
  rfl

def headedTable (tree : Tree) (header : Row TreeCell → Except Failure Value) :
    Except Failure Value := do
  let columns := tree.width tree.items
  let span := columns + if config.rowHeaders then 1 else 0
  let opening ← head config delegate tree.source columns
  if tree.items.length = 0 then
    return .text (opening ++ placeholder config span ++ "</table>\n")
  else
    let cap ← config.rowCap
    rowByRow config tree.source (headedMarkup config delegate tree.source header) true
      (some (Budget.ofLimit cap)) fun truncated lines =>
        .text (closed config span opening cap truncated lines).1

theorem outcome_headed (tree : Tree) {config : Config} (headed : config.rowHeaders = true) :
    ((⟨.htmlTable, config, delegate⟩ : Serializer).rendering (fun _ => none) tree.source).outcome =
      headedTable config delegate tree
        fun row => delegate.headerText tree.source .row (.int row.number) := by
  have width : tree.source.columnCount none = .ok (tree.width tree.items) := rfl
  have height : tree.source.rowCount none = .ok tree.items.length := rfl
  rw [outcome_eq, answer_render width height]
  unfold headedTable
  dsimp only
  cases head config delegate tree.source (tree.width tree.items) with
  | error failure => rfl
  | ok opening =>
    rw [ok_bind, ok_bind]
    by_cases empty : tree.items.length = 0
    · rw [if_pos empty, if_pos empty]
      rfl
    · rw [if_neg empty, if_neg empty, answer_filled_eq]
      cases config.rowCap with
      | error failure => rfl
      | ok cap =>
        rw [ok_bind, ok_bind, map_rowByRow, map_rowByRow, rowMarkup_headed _ _ headed]

end Html.Table

namespace Tree

variable {tree : Tree} {config : Config} {deepest : Int} {budget : Option Budget}
  {line line' : Row TreeCell → Except Failure String} {α : Type}

theorem columns_answer (tree : Tree) (parent : Option TreeCell) :
    Answers (fun _ => True) (tree.source.columns parent) :=
  ⟨_, columns_eq tree parent, trivial⟩

theorem answersAt_reached {place : RowPlace} (among : place ∈ tree.reached deepest budget) :
    tree.source.AnswersAt place.asRow.parent place.asRow.number :=
  answersAt rfl rfl (stands_of_reached among)

theorem rowByRow_reached (limited : ceiling config.maxDepth = .ok deepest)
    (line : Row TreeCell → Except Failure String) (budget : Option Budget)
    (final : Bool → String → α) :
    rowByRow config tree.source line true budget final =
      ((tree.reached deepest budget).mapM fun place => line place.asRow) >>= fun lines =>
        (script tree.source none 0 true deepest budget).ends >>= fun left =>
          .ok (final ((left.map Budget.truncated).getD false) (String.join lines)) := by
  obtain ⟨rows, -⟩ := tree.script_reached deepest budget
  rw [rowByRow, limited, ok_bind]
  simp only [rows, List.mapM_map, Function.comp_def]
  rfl

theorem rowByRow_congr (limited : ceiling config.maxDepth = .ok deepest)
    (same : ∀ place ∈ tree.reached deepest budget, line place.asRow = line' place.asRow)
    (final : Bool → String → α) :
    rowByRow config tree.source line true budget final =
      rowByRow config tree.source line' true budget final := by
  rw [rowByRow_reached limited, rowByRow_reached limited, mapM_congr same]

theorem rowByRow_fails_iff (limited : ceiling config.maxDepth = .ok deepest)
    {fails : RowPlace → Prop} {failure : Failure} (shallow : failure ≠ .tooDeep)
    (failed : ∀ place ∈ tree.reached deepest budget, fails place →
      line place.asRow = .error failure)
    (answers : ∀ place ∈ tree.reached deepest budget, ¬fails place →
      Answers (fun _ => True) (line place.asRow)) (final : Bool → String → α) :
    rowByRow config tree.source line true budget final = .error failure ↔
      ∃ place ∈ tree.reached deepest budget, fails place := by
  rw [rowByRow_reached limited]
  by_cases some : ∃ place ∈ tree.reached deepest budget, fails place
  · obtain ⟨place, among, fails'⟩ := some
    have first : ((tree.reached deepest budget).mapM fun place => line place.asRow) =
        .error failure := by
      apply mapM_eq_error
      · intro place among
        by_cases fails' : fails place
        · exact .inr (failed place among fails')
        · exact .inl (answers place among fails')
      · exact ⟨place, among, failed place among fails'⟩
    rw [first]
    exact iff_of_true rfl ⟨place, among, fails'⟩
  · have all := Answers.mapM fun place among =>
      answers place among fun fails' => some ⟨place, among, fails'⟩
    obtain ⟨lines, written, -⟩ := all
    rw [written, ok_bind]
    refine iff_of_false ?_ some
    obtain ⟨-, ends⟩ := tree.script_reached deepest budget
    rcases ends with ends | ⟨left, ends⟩
    · rw [ends]
      exact fun same => shallow (Except.error.inj same).symm
    · rw [ends]
      intro same
      cases same

end Tree

section

variable {config : Config} {style : MarkupStyle} {deepest : Int}

theorem Csv.outcome_fails_iff (tree : Tree) (suits : config.SuitsCells)
    (headed : config.rowHeaders = true) (suits' : style.SuitsCells) (asks : style.AsksRows)
    (limited : ceiling config.maxDepth = .ok deepest) :
    ((⟨.csvTree, config, .markup style⟩ : Serializer).rendering (fun _ => none)
        tree.source).outcome = .error .outOfRange ↔
      ∃ place ∈ tree.reached deepest none, tree.items.length ≤ place.row := by
  have headers : tree.source.AnswersHeaders := Tree.answersHeaders rfl rfl
  have width : tree.source.columnCount none = .ok (tree.width tree.items) := rfl
  have shallow : Failure.outOfRange ≠ .tooDeep := nofun
  obtain ⟨writer, made, writes⟩ := Writer.ofConfig_answers suits.toSuited (.markup style) true
  obtain ⟨opening, told, -⟩ := Writer.head_answers writes suits.toSuited suits'.toSuited headers
    width
  obtain ⟨rfl, nested⟩ := Writer.of_ofConfig made
  rw [outcome_headed headed, headedTable, made, ok_bind, told, ok_bind, nested]
  apply Tree.rowByRow_fails_iff limited shallow
  · intro place among beyond
    apply writer.headedLine_fails (tree.columns_answer _)
    exact Delegate.headerText_beyond suits' asks (List.getElem?_eq_none beyond)
  · intro place among within
    have top : tree.source.AnswersAt none place.asRow.number :=
      Tree.answersAt rfl rfl (Nat.not_le.mp within)
    have line := Writer.rowLine_answers writes suits suits' headers top
      (Tree.answersAt_reached among) (tree.columns_answer _)
    rw [Writer.rowLine_headed headed, writes.delegate] at line
    exact line

theorem Html.Table.outcome_fails_iff (tree : Tree) (suits : config.SuitsCells)
    (headed : config.rowHeaders = true) (suits' : style.SuitsCells) (asks : style.AsksRows)
    (limited : ceiling config.maxDepth = .ok deepest) {cap : Option Value}
    (capped : config.rowCap = .ok cap) :
    ((⟨.htmlTable, config, .markup style⟩ : Serializer).rendering (fun _ => none)
        tree.source).outcome = .error .outOfRange ↔
      ∃ place ∈ tree.reached deepest (some (Budget.ofLimit cap)),
        tree.items.length ≤ place.row := by
  have headers : tree.source.AnswersHeaders := Tree.answersHeaders rfl rfl
  have shallow : Failure.outOfRange ≠ .tooDeep := nofun
  have delegated : (Delegate.markup style).SuitsCells := suits'
  obtain ⟨opening, told, -⟩ := head_answers headers delegated.suited suits.toSuited
    (tree.width tree.items)
  rw [outcome_headed _ _ headed, headedTable, told, ok_bind]
  by_cases empty : tree.items.length = 0
  · rw [if_pos empty]
    refine iff_of_false nofun ?_
    rintro ⟨place, among, -⟩
    rw [Tree.reached_of_no_rows (List.length_eq_zero_iff.mp empty)] at among
    cases among
  · rw [if_neg empty, capped, ok_bind]
    apply Tree.rowByRow_fails_iff limited shallow
    · intro place among beyond
      apply headedMarkup_fails _ suits headers (tree.columns_answer _)
        (Tree.answersAt_reached among)
      exact Delegate.headerText_beyond suits' asks (List.getElem?_eq_none beyond)
    · intro place among within
      have top : tree.source.AnswersAt none place.asRow.number :=
        Tree.answersAt rfl rfl (Nat.not_le.mp within)
      have line := rowMarkup_answers suits delegated headers top
        (Tree.answersAt_reached among) (tree.columns_answer _)
      rw [rowMarkup_headed _ _ headed] at line
      exact line

end

namespace Tree

def rowItself (tree : Tree) (row : Row TreeCell) : Option Item :=
  (tree.level false row.parent)[row.number]?

def topRow (tree : Tree) (row : Row TreeCell) : Option Item := tree.items[row.number]?

def headerFrom (tree : Tree) (style : MarkupStyle) (limit : Int)
    (item? : Row TreeCell → Option Item) (row : Row TreeCell) : Except Failure Value :=
  match item? row with
  | some item => .ok (.text (style.rowHeader limit tree row.number item))
  | none => .error .outOfRange

def headedTable (tree : Tree) (format : Format) (config : Config) (delegate : Delegate)
    (header : Row TreeCell → Except Failure Value) : Except Failure Value :=
  match format with
  | .htmlTable => Html.Table.headedTable config delegate tree header
  | _ => Csv.headedTable config delegate tree.source header

def budgetOf (format : Format) (cap : Option Value) : Option Budget :=
  match format with
  | .htmlTable => some (Budget.ofLimit cap)
  | _ => none

variable {tree : Tree} {config : Config} {style : MarkupStyle} {limit deepest : Int}
  {cap : Option Value}

theorem csv_headedTable_congr (limited : ceiling config.maxDepth = .ok deepest)
    (delegate : Delegate) {header header' : Row TreeCell → Except Failure Value}
    (same : ∀ place ∈ tree.reached deepest none, header place.asRow = header' place.asRow) :
    Csv.headedTable config delegate tree.source header =
      Csv.headedTable config delegate tree.source header' := by
  unfold Csv.headedTable
  cases made : Csv.Writer.ofConfig config delegate true with
  | error failure => rfl
  | ok writer =>
    obtain ⟨rfl, nested⟩ := Csv.Writer.of_ofConfig made
    rw [ok_bind, ok_bind, nested]
    refine congrArg (writer.head tree.source >>= ·) (funext fun opening => ?_)
    apply rowByRow_congr limited
    intro place among
    rw [Csv.Writer.headedLine, Csv.Writer.headedLine, same place among]

theorem html_headedTable_congr (limited : ceiling config.maxDepth = .ok deepest)
    (capped : config.rowCap = .ok cap) (delegate : Delegate)
    {header header' : Row TreeCell → Except Failure Value}
    (same : ∀ place ∈ tree.reached deepest (some (Budget.ofLimit cap)),
      header place.asRow = header' place.asRow) :
    Html.Table.headedTable config delegate tree header =
      Html.Table.headedTable config delegate tree header' := by
  unfold Html.Table.headedTable
  refine congrArg (Html.Table.head config delegate tree.source _ >>= ·) (funext fun opening => ?_)
  split
  · rfl
  · rw [capped, ok_bind, ok_bind]
    apply rowByRow_congr limited
    intro place among
    rw [Html.Table.headedMarkup, Html.Table.headedMarkup, same place among]

theorem headerText_from_top (suits : style.SuitsCells) (asks : style.AsksRows)
    (whole : style.maxLength = .int limit) :
    (fun row : Row TreeCell => (Delegate.markup style).headerText tree.source .row
      (.int row.number)) = tree.headerFrom style limit tree.topRow := by
  funext row
  unfold headerFrom topRow
  cases found : tree.items[row.number]? with
  | none => exact Delegate.headerText_beyond suits asks found
  | some item => exact Delegate.headerText_of_top suits whole found

/-- The affixes of row headers are filled from the top-level rows of the same numbers, not from the
rows that are headed. A table fails for them exactly if it comes to a row whose number no top-level
row has; where it comes to top-level rows alone, each header is filled from its own row. -/
theorem row_affixes_filled_from_top (tree : Tree) {format : Format}
    (table : format ∈ [Format.csvTree, .htmlTable]) {config : Config} (suits : config.SuitsCells)
    (headed : config.rowHeaders = true) {style : MarkupStyle} (suits' : style.SuitsCells)
    (asks : style.AsksRows) {limit deepest : Int} (whole : style.maxLength = .int limit)
    (limited : config.maxDepth = .int deepest) {cap : Option Value}
    (capped : config.rowCap = .ok cap) :
    let outcome := ((⟨format, config, .markup style⟩ : Serializer).serialize
      (some (.tree tree none))).outcome
    let filledFrom (item? : Row TreeCell → Option Item) :=
      tree.headedTable format config (.markup style) (tree.headerFrom style limit item?)
    let reached := tree.reached deepest (budgetOf format cap)
    outcome = filledFrom tree.topRow ∧
    (outcome = .error .outOfRange ↔ ∃ place ∈ reached, tree.items.length ≤ place.row) ∧
    ((∀ place ∈ reached, place.parent = none) → outcome = filledFrom tree.rowItself) := by
  intro outcome filledFrom reached
  have ceiled : ceiling config.maxDepth = .ok deepest := by
    rw [limited]
    rfl
  have kinds : format = .csvTree ∨ format = .htmlTable := by simpa using table
  have filled : outcome = filledFrom tree.topRow := by
    rcases kinds with rfl | rfl
    · have outcome := Csv.outcome_headed headed (.markup style) tree.source
      rwa [headerText_from_top suits' asks whole] at outcome
    · have outcome := Html.Table.outcome_headed (.markup style) tree headed
      rwa [headerText_from_top suits' asks whole] at outcome
  refine ⟨filled, ?_, fun top => ?_⟩
  · rcases kinds with rfl | rfl
    · exact Csv.outcome_fails_iff tree suits headed suits' asks ceiled
    · exact Html.Table.outcome_fails_iff tree suits headed suits' asks ceiled capped
  · rw [filled]
    have same : ∀ place ∈ reached, tree.headerFrom style limit tree.topRow place.asRow =
        tree.headerFrom style limit tree.rowItself place.asRow := by
      intro place among
      have same : tree.topRow place.asRow = tree.rowItself place.asRow := by
        unfold rowItself topRow RowPlace.asRow
        rw [top place among]
        rfl
      rw [headerFrom, headerFrom, same]
    rcases kinds with rfl | rfl
    · exact csv_headedTable_congr ceiled _ same
    · exact html_headedTable_congr ceiled capped _ same

def underAnother : Tree where
  items := [⟨#[.text "a"], [⟨#[.text "b"], [], []⟩], []⟩]

def twoUnderAnother : Tree where
  items := [⟨#[.text "a"], [⟨#[.text "b"], [], []⟩, ⟨#[.text "c"], [], []⟩], []⟩]

def namedByFirst : MarkupStyle where
  conversion := .escape
  front := { rows := [(headerPosition, { html := .text "{}:", argument := some (.int 0) })] }

theorem fails_under_another :
    ((⟨.htmlTable, { rowHeaders := true }, .markup namedByFirst⟩ : Serializer).serialize
      (some (.tree twoUnderAnother none))).outcome = .error .outOfRange := by
  have suits : ({ rowHeaders := true } : Config).SuitsCells :=
    { corner := ⟨_, rfl⟩, maxRows := .inr ⟨_, rfl⟩, maxDepth := ⟨_, rfl⟩, separator := nofun,
      recordSeparator := ⟨_, rfl⟩, fieldQuote := nofun, escapeChar := nofun,
      replacementChar := nofun, htmlPrefixRole := nofun, linkRole := nofun,
      linkClassRole := nofun, rowClassRole := nofun, cellClassRole := nofun }
  have suits' : namedByFirst.SuitsCells :=
    { length := ⟨_, rfl⟩
      htmls := by simp [namedByFirst, Value.isText_text]
      affixes := by
        simp only [namedByFirst, List.forall_mem_cons, List.nil_append, List.append_nil]
        exact ⟨⟨⟨by simp, nofun⟩, nofun⟩, nofun, nofun⟩ }
  have asks : namedByFirst.AsksRows :=
    ⟨namedByFirst.front, List.mem_cons_self, _, rfl, Option.some_ne_none _⟩
  have table : Format.htmlTable ∈ [Format.csvTree, .htmlTable] := by simp
  have capped : ({ rowHeaders := true } : Config).rowCap = .ok (some (.int 100)) := rfl
  have fails := (row_affixes_filled_from_top twoUnderAnother table suits rfl suits' asks rfl rfl
    capped).2.1
  have reached : twoUnderAnother.reached 256 (budgetOf .htmlTable (some (.int 100))) =
      (let parent := some ⟨⟨#[.text "a"], [⟨#[.text "b"], [], []⟩, ⟨#[.text "c"], [], []⟩], []⟩,
        .int 0⟩
      [⟨none, 0, 0⟩, ⟨parent, 0, 1⟩, ⟨parent, 1, 1⟩]) := rfl
  apply fails.mpr
  rw [reached]
  exact ⟨_, List.mem_cons_of_mem _ (List.mem_cons_of_mem _ List.mem_cons_self), by decide⟩

theorem named_by_another :
    let config : Config := { rowHeaders := true, columnHeaders := false }
    let outcome (tree : Tree) := ((⟨.csvTree, config, .markup namedByFirst⟩ : Serializer).serialize
      (some (.tree tree none))).outcome
    let claimed (tree : Tree) := tree.headedTable .csvTree config (.markup namedByFirst)
      (tree.headerFrom namedByFirst 200 tree.rowItself)
    (outcome underAnother = .ok (.text "a:;a\na:; b\n") ∧
      claimed underAnother = .ok (.text "a:;a\nb:; b\n")) ∧
    outcome twoUnderAnother = .error .outOfRange ∧
      claimed twoUnderAnother = .ok (.text "a:;a\nb:; b\nc:; c\n") :=
  ⟨⟨rfl, rfl⟩, rfl, rfl⟩

end Tree

end TreeTable

import TreeTable.Proofs.Html.Inline
import TreeTable.Proofs.Html.Outline
import TreeTable.Proofs.Markup.Mark
import TreeTable.Proofs.Walk.Alike

/-!
Escaped texts stay out of the markup around them: the characters that begin or end tags and
attributes are the same for all trees of one shape.
-/

namespace TreeTable

namespace Markup

@[simp] theorem marks_escapedText (maxLength : Int) (text : String) :
    marks (Delegate.escapedText maxLength text) = [] := by
  rw [marks, Delegate.escapedText, String.toList_ofList, filter_escape]

end Markup

open Markup

def Value.marks (data : Value) : List Char := Markup.marks data.display

/-- No option names a role. -/
structure Config.Undecorated (config : Config) : Prop where
  linkRole : config.linkRole = none
  linkClassRole : config.linkClassRole = none
  htmlPrefixRole : config.htmlPrefixRole = none
  rowClassRole : config.rowClassRole = none
  cellClassRole : config.cellClassRole = none

namespace Html

open Render Walk

variable {config : Config} {left right : Tree}

theorem role_none {ν : Type} (source : Source ν) (node : ν) : role source node none = .ok "" := rfl

theorem decoratedText_of_undecorated {ν : Type} (bare : config.Undecorated) (delegate : Delegate)
    (source : Source ν) (parent : Option ν) (row column : Value) :
    decoratedText config delegate source parent row column =
      source.cell row column parent >>= fun _ => delegate.text source parent row column := by
  have shown : ∀ text, ("" ++ linked text "" "") = text := by
    intro text
    rw [String.empty_append]
    rfl
  unfold decoratedText
  refine congrArg (source.cell row column parent >>= ·) (funext fun node => ?_)
  rw [bare.linkRole, bare.htmlPrefixRole]
  refine Eq.trans ?_ (bind_pure (delegate.text source parent row column))
  exact congrArg (delegate.text source parent row column >>= ·)
    (funext fun text => congrArg Except.ok (shown text))

theorem lookIn_alike {position : Value} (whole : ∀ x, position ≠ .float x) {α : Type}
    (elements elements' : Array α) :
    LookAlike (fun _ => ()) (position.lookIn elements) (position.lookIn elements') := by
  have found : ∀ index, position.asIndex = .ok index →
      (∀ length, ∃ within, position.isWithin length = .ok within) → ∀ elements : Array α,
        Answers (fun _ => () = ()) (position.lookIn elements) := by
    intro index indexed places elements
    obtain ⟨within, placed⟩ := places elements.size
    rw [Value.lookIn, placed, ok_bind]
    cases within with
    | false => exact .ok rfl
    | true =>
      rw [if_pos rfl, indexed]
      exact .ok rfl
  cases position with
  | float x => exact absurd rfl (whole x)
  | null | text | broken | list | object => exact .refl _
  | int n =>
    have places := found n rfl fun length => ⟨_, rfl⟩
    exact .of_answers (places elements) (places elements')
  | bool b =>
    have places := found b.toNat rfl fun length => ⟨_, rfl⟩
    exact .of_answers (places elements) (places elements')

theorem shown_alike {column : Value} (whole : ∀ x, column ≠ .float x)
    {row row' : Row TreeCell} (alike : row.Alike left right row') :
    LookAlike (fun _ => ()) (left.source.shown (.int row.number) column row.parent)
      (right.source.shown (.int row'.number) column row'.parent) := by
  obtain ⟨item, item', found, found'⟩ := alike.found
  rw [Source.shown, Source.shown, cell_eq _ found, cell_eq _ found', ok_bind, ok_bind]
  have looked : ∀ (tree : Tree) (item : Item), (do
      return (← tree.source.text ⟨item, column⟩ none).getD "") =
        column.lookIn item.values >>= fun value =>
          (.ok ((value.map Value.cellText).getD "") : Except Failure String) := by
    intro tree item
    have told : tree.source.text ⟨item, column⟩ none =
        column.lookIn item.values >>= fun value => .ok (value.map Value.cellText) := rfl
    rw [told, bind_assoc]
    rfl
  rw [looked, looked]
  exact (lookIn_alike whole _ _).bind fun _ _ _ => .ok rfl

theorem decoratedText_alike (bare : config.Undecorated) (maxLength : Int) {column : Value}
    (whole : ∀ x, column ≠ .float x) {row row' : Row TreeCell}
    (alike : row.Alike left right row') :
    LookAlike marks
      (decoratedText config (.escaping maxLength) left.source row.parent (.int row.number) column)
      (decoratedText config (.escaping maxLength) right.source row'.parent (.int row'.number)
        column) := by
  obtain ⟨item, item', found, found'⟩ := alike.found
  rw [decoratedText_of_undecorated bare, decoratedText_of_undecorated bare,
    cell_eq row.parent found, ok_bind, cell_eq row'.parent found', ok_bind,
    Delegate.escaping_text, Delegate.escaping_text]
  have shown := shown_alike whole alike
  rw [← alike.number] at shown ⊢
  refine shown.bind fun text text' _ => ?_
  split
  · exact .ok (by simp)
  · exact .refl _

theorem Inline.pieces_alike (bare : config.Undecorated) (maxLength : Int)
    (whole : ∀ x, config.displayedColumn ≠ .float x) {act act' : Act TreeCell}
    (alike : act.Alike left right act') :
    LookAlike (List.map marks) (Inline.pieces config (.escaping maxLength) left.source act)
      (Inline.pieces config (.escaping maxLength) right.source act') := by
  cases alike with
  | enter | close | leave => exact .refl _
  | row alike columns =>
    refine (decoratedText_alike bare maxLength whole alike).bind fun item item' same => ?_
    exact .bind_same _ fun front => .ok (by simp [same])

theorem Inline.finish_alike {items items' : List String}
    (same : items.map marks = items'.map marks) :
    LookAlike Value.marks (Inline.finish config items) (Inline.finish config items') := by
  have empty := congrArg List.isEmpty same
  rw [List.isEmpty_map, List.isEmpty_map] at empty
  unfold Inline.finish
  rw [empty]
  split
  · exact .refl _
  · have joined : ∀ separator : String, Value.marks (.text (separator.intercalate items)) =
        Value.marks (.text (separator.intercalate items')) := by
      intro separator
      have told : ∀ items, Value.marks (.text (separator.intercalate items)) =
          (marks separator).intercalate (items.map marks) := marks_intercalate separator
      rw [told, told, same]
    cases config.separator.getD (.text Inline.defaultSeparator) with
    | null | bool | int | float | list | object => exact .refl _
    | text separator =>
      rw [Value.join, Value.join, Value.mapM_asText, Value.mapM_asText]
      exact .ok (joined separator)
    | broken points =>
      rw [Value.join, Value.join, Value.mapM_asText, Value.mapM_asText]
      exact .ok (joined (Text.broken points).shown)

theorem actByAct_alike (same : left.shape = right.shape) (config : Config) (recursive : Bool)
    (budget : Option Budget) {pieces pieces' : Act TreeCell → Except Failure (List String)}
    (alike : ∀ act act', act.Alike left right act' →
      LookAlike (List.map marks) (pieces act) (pieces' act'))
    {final : Bool → List String → Except Failure Value}
    (ends : ∀ truncated items items', items.map marks = items'.map marks →
      LookAlike Value.marks (final truncated items) (final truncated items')) :
    LookAlike Value.marks (actByAct config left.source pieces recursive budget final)
      (actByAct config right.source pieces' recursive budget final) := by
  unfold actByAct
  refine .bind_same _ fun deepest => ?_
  have scripts := script_alike same recursive deepest budget
  refine (LookAlike.mapM alike scripts.acts).bind fun added added' same => ?_
  have written : added.flatten.map marks = added'.flatten.map marks := by
    rw [List.map_flatten, List.map_flatten, same]
  rw [scripts.ends]
  exact .bind_same _ fun left => ends _ _ _ written

theorem outcome_inline_alike (bare : config.Undecorated) (maxLength : Int)
    (whole : ∀ x, config.displayedColumn ≠ .float x) (same : left.shape = right.shape) :
    LookAlike Value.marks
      ((⟨.htmlSet, config, .escaping maxLength⟩ : Serializer).rendering (fun _ => none)
        left.source).outcome
      ((⟨.htmlSet, config, .escaping maxLength⟩ : Serializer).rendering (fun _ => none)
        right.source).outcome := by
  rw [(Inline.outcome_comes config (.escaping maxLength) left.source fun _ => none).1 fun _ => rfl,
    (Inline.outcome_comes config (.escaping maxLength) right.source fun _ => none).1 fun _ => rfl]
  exact actByAct_alike same config false none
    (fun act act' alike => Inline.pieces_alike bare maxLength whole alike)
    fun _ items items' same => Inline.finish_alike same

theorem text_alike (maxLength : Int) {row row' : Row TreeCell} (alike : row.Alike left right row')
    (column : Nat) :
    LookAlike marks
      ((Delegate.escaping maxLength).text left.source row.parent (.int row.number) (.int column))
      ((Delegate.escaping maxLength).text right.source row'.parent (.int row'.number)
        (.int column)) := by
  obtain ⟨item, item', found, found'⟩ := alike.found
  rw [left.escaping_text maxLength _ found, right.escaping_text maxLength _ found']
  exact .ok (by simp)

theorem Outline.pieces_alike (maxLength : Int) {act act' : Act TreeCell}
    (alike : act.Alike left right act') :
    LookAlike (List.map marks) (Outline.pieces (.escaping maxLength) left.source act)
      (Outline.pieces (.escaping maxLength) right.source act') := by
  cases alike with
  | enter | close | leave => exact .refl _
  | row alike columns =>
    have cells : LookAlike (List.map marks)
        (Outline.rowCells (.escaping maxLength) left.source _ columns)
        (Outline.rowCells (.escaping maxLength) right.source _ columns) :=
      .mapM_same fun column : Nat => text_alike maxLength alike column
    refine cells.bind fun texts texts' same => .ok ?_
    simp [marks_intercalate, same]

theorem outcome_outline_alike (maxLength : Int) (same : left.shape = right.shape) :
    LookAlike Value.marks
      ((⟨.htmlList, config, .escaping maxLength⟩ : Serializer).rendering (fun _ => none)
        left.source).outcome
      ((⟨.htmlList, config, .escaping maxLength⟩ : Serializer).rendering (fun _ => none)
        right.source).outcome := by
  rw [(Outline.outcome_comes config (.escaping maxLength) left.source fun _ => none).1 fun _ => rfl,
    (Outline.outcome_comes config (.escaping maxLength) right.source fun _ => none).1 fun _ => rfl]
  refine actByAct_alike same config true none
    (fun act act' alike => Outline.pieces_alike maxLength alike) fun _ items items' same => .ok ?_
  have joined : ∀ items, Value.marks (.text (String.join items ++ "\n")) =
      (items.map marks).flatten ++ marks "\n" := by
    intro items
    rw [← marks_join, ← marks_append]
    rfl
  rw [joined, joined, same]

namespace Table

theorem rowHeader_answers (bare : config.Undecorated) (maxLength : Int) (tree : Tree) (row : Nat) :
    Answers (marks · = marks "<th></th>")
      (rowHeader config (.escaping maxLength) tree.source row) := by
  obtain ⟨text, given⟩ := tree.escaping_headerText maxLength .row row
  rw [rowHeader, bare.htmlPrefixRole, given]
  have shown : marks ("<th>" ++ "" ++ Delegate.escapedText maxLength text ++ "</th>") =
      marks "<th></th>" := by
    simp only [marks_append, marks_escapedText]
    decide
  exact .ok shown

theorem headerCells_alike (bare : config.Undecorated) (maxLength : Int) (column columns : Nat) :
    LookAlike (List.map marks) (headerCells config (.escaping maxLength) left.source column columns)
      (headerCells config (.escaping maxLength) right.source column columns) := by
  induction columns generalizing column with
  | zero => exact .refl _
  | succ columns ih =>
    have cell : ∀ tree : Tree, headerCells config (.escaping maxLength) tree.source column
        (columns + 1) = (do
          let header ← (Delegate.escaping maxLength).headerText tree.source .column (.int column)
          let cells ← headerCells config (.escaping maxLength) tree.source (column + 1) columns
          return ("<th>" ++ "" ++ header.display ++ "</th>") :: cells) := by
      intro tree
      rw [headerCells, bare.htmlPrefixRole]
      rfl
    obtain ⟨text, given⟩ := left.escaping_headerText maxLength .column column
    obtain ⟨text', given'⟩ := right.escaping_headerText maxLength .column column
    rw [cell, cell, given, given', ok_bind, ok_bind]
    refine (ih (column + 1)).bind fun cells cells' same => .ok ?_
    simp [Value.display, same]

theorem head_alike (bare : config.Undecorated) (maxLength : Int) (columns : Nat) :
    LookAlike marks (head config (.escaping maxLength) left.source columns)
      (head config (.escaping maxLength) right.source columns) := by
  have header : LookAlike marks
      (if config.columnHeaders then headerRow config (.escaping maxLength) left.source columns
        else .ok "")
      (if config.columnHeaders then headerRow config (.escaping maxLength) right.source columns
        else .ok "") := by
    split
    · refine (headerCells_alike bare maxLength 0 columns).bind fun cells cells' same => .ok ?_
      simp [marks_join, same]
    · exact .refl _
  exact header.bind fun header header' same => .ok (by simp [same])

theorem cellMarkup_alike (bare : config.Undecorated) (maxLength : Int) {row row' : Row TreeCell}
    (alike : row.Alike left right row') (column : Nat) :
    LookAlike marks (cellMarkup config (.escaping maxLength) left.source row column)
      (cellMarkup config (.escaping maxLength) right.source row' column) := by
  obtain ⟨item, item', found, found'⟩ := alike.found
  have whole : ∀ x, Value.int column ≠ .float x := fun x => nofun
  rw [cellMarkup, cellMarkup, ← alike.depth, cell_eq row.parent found, ok_bind,
    cell_eq row'.parent found', ok_bind, bare.cellClassRole, role_none, role_none, ok_bind, ok_bind]
  exact (decoratedText_alike bare maxLength whole alike).bind fun text text' same =>
    .ok (by simp [same])

theorem rowOpening_alike (bare : config.Undecorated) (maxLength : Int) {row row' : Row TreeCell}
    (alike : row.Alike left right row') :
    LookAlike marks (rowOpening config (.escaping maxLength) left.source row)
      (rowOpening config (.escaping maxLength) right.source row') := by
  obtain ⟨item, item', found, found'⟩ := alike.found
  rw [rowOpening, rowOpening, cell_eq row.parent found, ok_bind, cell_eq row'.parent found',
    ok_bind, bare.rowClassRole, role_none, role_none, ok_bind, ok_bind, ← alike.number]
  have header : LookAlike marks
      (if config.rowHeaders then rowHeader config (.escaping maxLength) left.source row.number
        else .ok "")
      (if config.rowHeaders then rowHeader config (.escaping maxLength) right.source row.number
        else .ok "") := by
    split
    · exact .of_answers (rowHeader_answers bare maxLength left row.number)
        (rowHeader_answers bare maxLength right row.number)
    · exact .refl _
  exact header.bind fun header header' same => .ok (by simp [same])

theorem rowMarkup_alike (bare : config.Undecorated) (maxLength : Int) {row row' : Row TreeCell}
    (alike : row.Alike left right row') :
    LookAlike marks (rowMarkup config (.escaping maxLength) left.source row)
      (rowMarkup config (.escaping maxLength) right.source row') := by
  rw [rowMarkup, rowMarkup, columns_eq, columns_eq, ← alike.level.width, ok_bind, ok_bind]
  refine (rowOpening_alike bare maxLength alike).bind fun opening opening' same => ?_
  have cells : LookAlike (List.map marks)
      ((List.range (left.width (left.level false row.parent))).mapM
        (cellMarkup config (.escaping maxLength) left.source row))
      ((List.range (left.width (left.level false row.parent))).mapM
        (cellMarkup config (.escaping maxLength) right.source row')) :=
    .mapM_same fun column => cellMarkup_alike bare maxLength alike column
  exact cells.bind fun cells cells' same' => .ok (by simp [marks_join, same, same'])

theorem filled_alike (bare : config.Undecorated) (maxLength : Int)
    (same : left.shape = right.shape) (span : Nat) {opening opening' : String}
    (opens : marks opening = marks opening') :
    LookAlike (marks ∘ Prod.fst)
      (answer (fun _ => none) (filled config (.escaping maxLength) left.source span opening))
      (answer (fun _ => none)
        (filled config (.escaping maxLength) right.source span opening')) := by
  rw [answer_filled_eq, answer_filled_eq]
  refine .bind_same _ fun cap => ?_
  unfold rowByRow
  refine .bind_same _ fun deepest => ?_
  have scripts := script_alike same true deepest (some (Budget.ofLimit cap))
  refine (LookAlike.mapM (fun row row' alike => rowMarkup_alike bare maxLength alike)
    (rows_alike scripts)).bind fun lines lines' written => ?_
  rw [scripts.ends]
  exact .bind_same _ fun left => .ok (by simp [closed, marks_join, written, opens])

end Table

theorem outcome_table_alike (bare : config.Undecorated) (maxLength : Int)
    (same : left.shape = right.shape) :
    LookAlike Value.marks
      ((⟨.htmlTable, config, .escaping maxLength⟩ : Serializer).rendering (fun _ => none)
        left.source).outcome
      ((⟨.htmlTable, config, .escaping maxLength⟩ : Serializer).rendering (fun _ => none)
        right.source).outcome := by
  have level : SameLevel left right none none := sameLevel_of_shapeUnder same
  have width : ∀ tree : Tree, tree.source.columnCount none = .ok (tree.width tree.items : Int) :=
    fun _ => rfl
  have height : ∀ tree : Tree, tree.source.rowCount none = .ok (tree.items.length : Int) :=
    fun _ => rfl
  have widths : left.width left.items = right.width right.items := level.width
  have heights : left.items.length = right.items.length := level.length
  rw [Table.outcome_eq, Table.outcome_eq, Table.answer_render (width left) (height left),
    Table.answer_render (width right) (height right), widths, heights]
  have tables : LookAlike (marks ∘ Prod.fst)
      (Table.head config (.escaping maxLength) left.source (right.width right.items) >>=
        fun opening =>
          let span := right.width right.items + if config.rowHeaders then 1 else 0
          if right.items.length = 0 then
            .ok (opening ++ Table.placeholder config span ++ "</table>\n", none)
          else answer (fun _ => none)
            (Table.filled config (.escaping maxLength) left.source span opening))
      (Table.head config (.escaping maxLength) right.source (right.width right.items) >>=
        fun opening =>
          let span := right.width right.items + if config.rowHeaders then 1 else 0
          if right.items.length = 0 then
            .ok (opening ++ Table.placeholder config span ++ "</table>\n", none)
          else answer (fun _ => none)
            (Table.filled config (.escaping maxLength) right.source span opening)) := by
    refine (Table.head_alike bare maxLength _).bind fun opening opening' opens => ?_
    dsimp only
    split
    · exact .ok (by simp [opens])
    · exact Table.filled_alike bare maxLength same _ opens
  have texts : LookAlike marks _ _ := tables.map fun table table' same => same
  exact texts.map fun text text' same => same

/-- Escaping keeps texts out of the markup. For trees of one shape, whatever their texts, headers
and row headers, a render of markup fails alike or answers with the same marks in the same order, if
no option names a role. Only a column that is given as a fraction is refused or not by the length of
a row, which its shape does not tell. -/
theorem marks_rendering (format : Format)
    (markup : format ∈ [Format.htmlTable, .htmlList, .htmlSet]) (config : Config)
    (bare : config.Undecorated) (whole : ∀ x, config.displayedColumn ≠ .float x) (maxLength : Int)
    (left right : Tree) (same : left.shape = right.shape) :
    let outcome (tree : Tree) := ((⟨format, config, .escaping maxLength⟩ : Serializer).serialize
      (some (.tree tree none))).outcome
    Value.marks <$> outcome left = Value.marks <$> outcome right := by
  intro outcome
  simp only [List.mem_cons, List.not_mem_nil, or_false] at markup
  rcases markup with rfl | rfl | rfl
  · exact outcome_table_alike bare maxLength same
  · exact outcome_outline_alike maxLength same
  · exact outcome_inline_alike bare maxLength whole same

def plainRows : Tree where
  items := [⟨#[.text "a", .text "b"], [⟨#[.int 1], [], []⟩], []⟩, ⟨#[.null], [], []⟩]

theorem marks_taggedRows :
    let outcome (tree : Tree) := ((⟨.htmlTable, { rowHeaders := true }, .escaping 4⟩ :
      Serializer).serialize (some (.tree tree none))).outcome
    Value.marks <$> outcome Outline.taggedRows = Value.marks <$> outcome plainRows :=
  marks_rendering .htmlTable (by decide) { rowHeaders := true } ⟨rfl, rfl, rfl, rfl, rfl⟩ nofun 4
    Outline.taggedRows plainRows rfl

end Html

end TreeTable

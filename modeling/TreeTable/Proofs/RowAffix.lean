import TreeTable.Proofs.Cells

namespace TreeTable

open Walk

def Item.shown (item : Item) (column : Int) : String :=
  ((nth? item.values.toList column).map Value.cellText).getD ""

theorem Tree.shown_int (tree : Tree) (parent : Option TreeCell) {row : Nat} {item : Item}
    (found : (tree.level false parent)[row]? = some item) (column : Int) :
    tree.source.shown (.int row) (.int column) parent = .ok (item.shown column) := by
  have text : tree.source.text ⟨item, .int column⟩ none =
      .ok ((nth? item.values.toList column).map Value.cellText) := by
    have answer : tree.source.text ⟨item, .int column⟩ none = item.text? (.int column) := rfl
    rw [answer, Item.text?, Value.lookIn_int]
    rfl
  rw [Source.shown, cell_eq parent found, ok_bind, text]
  rfl

theorem Tree.shown_beyond (tree : Tree) (parent : Option TreeCell) {row : Nat}
    (beyond : (tree.level false parent)[row]? = none) (column : Value) :
    tree.source.shown (.int row) column parent = .error .outOfRange := by
  have missing : pick? (tree.level false parent) row = none := by simpa [pick?] using beyond
  have cell : tree.source.cell (.int row) column parent = .error .outOfRange := by
    simp only [Tree.source, Tree.faultySource, Value.asIndex, ok_bind, missing]
    rfl
  rw [Source.shown, cell]
  rfl

namespace Affix

variable {affix : Affix}

def filledFrom (affix : Affix) (item : Item) : String :=
  match affix.argument with
  | some (.int column) =>
    String.ofList
      (fill (affix.transcoded (item.shown column)).display.toList affix.html.display.toList)
  | _ => affix.html.display

theorem render_item (suits : affix.SuitsCells) (html : affix.html.IsText) (tree : Tree)
    (parent : Option TreeCell) {row : Nat} {item : Item}
    (found : (tree.level false parent)[row]? = some item) :
    affix.render tree.source parent (.int row) = .ok (.text (affix.filledFrom item)) := by
  obtain ⟨text, whole⟩ := html
  unfold render filledFrom
  cases given : affix.argument with
  | none =>
    rw [whole]
    rfl
  | some column =>
    obtain ⟨number, rfl⟩ := suits.argument column given
    obtain ⟨filling, transcoded⟩ := suits.transcoded (item.shown number)
    dsimp only
    rw [tree.shown_int parent found, ok_bind, whole, transcoded]
    rfl

theorem render_beyond (tree : Tree) (parent : Option TreeCell) {row : Nat}
    (beyond : (tree.level false parent)[row]? = none) {column : Value}
    (asks : affix.argument = some column) :
    affix.render tree.source parent (.int row) = .error .outOfRange := by
  unfold render
  rw [asks]
  dsimp only
  rw [tree.shown_beyond parent beyond]
  rfl

end Affix

namespace MarkupStyle

variable {style : MarkupStyle}

def rowAffix (affixes : Affixes) : Option Affix := affixes.rows.value? headerPosition

def AsksRows (style : MarkupStyle) : Prop :=
  ∃ affixes ∈ [style.front, style.back], ∃ affix ∈ rowAffix affixes, affix.argument ≠ none

def filledSide (affixes : Affixes) (item : Item) : String :=
  ((rowAffix affixes).map (Affix.filledFrom · item)).getD ""

def rowHeader (style : MarkupStyle) (limit : Int) (tree : Tree) (number : Nat) (item : Item) :
    String :=
  let header := tree.rowHeaders[number]?.getD ""
  let converted := style.conversion.apply (Markup.clip limit header.toList)
  filledSide style.front item ++ String.ofList converted ++ filledSide style.back item

end MarkupStyle

theorem Tree.headerShown_row (tree : Tree) (number : Nat) :
    tree.source.headerShown .row (.int number) =
      .ok (.text (tree.rowHeaders[number]?.getD "")) := by
  rw [Source.headerShown, header_eq, headerNames]
  cases tree.rowHeaders[number]? <;> rfl

namespace Delegate

open MarkupStyle

variable {style : MarkupStyle} {tree : Tree} {number : Nat} {affixes : Affixes}

theorem behind_filledSide (affixes : Affixes) (item : Item) (text : String) :
    behind ((rowAffix affixes).map fun affix => .text (affix.filledFrom item)) (.text text) =
      .ok (.text (filledSide affixes item ++ text)) := by
  unfold filledSide
  cases rowAffix affixes with
  | none => simp [behind]
  | some affix => rfl

theorem before_filledSide (affixes : Affixes) (item : Item) (text : String) :
    before ((rowAffix affixes).map fun affix => .text (affix.filledFrom item)) (.text text) =
      .ok (.text (text ++ filledSide affixes item)) := by
  unfold filledSide
  cases rowAffix affixes with
  | none => simp [before]
  | some affix => rfl

theorem headerAffix_of_top (suits : style.SuitsCells)
    (side : affixes ∈ [style.front, style.back]) {item : Item}
    (found : tree.items[number]? = some item) :
    headerAffix affixes tree.source (.int number) =
      .ok ((rowAffix affixes).map fun affix => .text (affix.filledFrom item)) := by
  unfold headerAffix
  cases stands : rowAffix affixes with
  | none =>
    have stands : affixes.rows.value? headerPosition = none := stands
    rw [stands]
    rfl
  | some affix =>
    have stands : affixes.rows.value? headerPosition = some affix := stands
    obtain ⟨suits, html⟩ := suits.of_value? side (.inr rfl) stands
    rw [stands]
    exact congrArg (Functor.map some) (Affix.render_item suits html tree none found)

theorem headerAffix_beyond (suits : style.SuitsCells)
    (side : affixes ∈ [style.front, style.back]) (beyond : tree.items[number]? = none) :
    headerAffix affixes tree.source (.int number) = .error .outOfRange ∨
      (∀ affix ∈ rowAffix affixes, affix.argument = none) ∧
        Answers (fun given => ∀ html ∈ given, html.IsText)
          (headerAffix affixes tree.source (.int number)) := by
  unfold headerAffix rowAffix
  cases stands : affixes.rows.value? headerPosition with
  | none => exact .inr ⟨nofun, .ok nofun⟩
  | some affix =>
    cases asks : affix.argument with
    | some column =>
      exact .inl (congrArg (Functor.map some) (Affix.render_beyond tree none beyond asks))
    | none =>
      obtain ⟨-, html⟩ := suits.of_value? side (.inr rfl) stands
      have given : affix.render tree.source none (.int number) = .ok affix.html := by
        unfold Affix.render
        rw [asks]
      refine .inr ⟨?_, some affix.html, congrArg (Functor.map some) given, ?_⟩
      · rintro _ ⟨⟩
        exact asks
      · rintro _ ⟨⟩
        exact html

theorem headerText_of_top (suits : style.SuitsCells) {limit : Int}
    (whole : style.maxLength = .int limit) {item : Item}
    (found : tree.items[number]? = some item) :
    (markup style).headerText tree.source .row (.int number) =
      .ok (.text (style.rowHeader limit tree number item)) := by
  have front := headerAffix_of_top suits List.mem_cons_self found
  have back := headerAffix_of_top suits (List.mem_cons_of_mem _ List.mem_cons_self) found
  have converted : ∀ text, style.convert (.text text) =
      .ok (.text (String.ofList (style.conversion.apply (Markup.clip limit text.toList)))) :=
    fun text => congrArg (Except.map Value.text) (convertText_of_int whole text)
  rw [headerText_row, tree.headerShown_row, ok_bind, converted, ok_bind, front, ok_bind,
    behind_filledSide, ok_bind, back, ok_bind, before_filledSide]
  rfl

theorem headerText_beyond (suits : style.SuitsCells) (asks : style.AsksRows)
    (beyond : tree.items[number]? = none) :
    (markup style).headerText tree.source .row (.int number) = .error .outOfRange := by
  have front := headerAffix_beyond suits List.mem_cons_self beyond
  have back := headerAffix_beyond suits (List.mem_cons_of_mem _ List.mem_cons_self) beyond
  obtain ⟨converted, given, isText⟩ :=
    suits.toSuited.convert (tree.rowHeaders[number]?.getD "")
  rw [headerText_row, tree.headerShown_row, ok_bind, given, ok_bind]
  rcases front with fails | ⟨silent, front, answered, areTexts⟩
  · rw [fails]
    rfl
  · obtain ⟨fronted, given, -⟩ := behind_answers areTexts isText
    rw [answered, ok_bind, given, ok_bind]
    rcases back with fails | ⟨silent', -⟩
    · rw [fails]
      rfl
    · obtain ⟨affixes, side, affix, stands, argument⟩ := asks
      simp only [List.mem_cons, List.not_mem_nil, or_false] at side
      rcases side with rfl | rfl
      · exact absurd (silent affix stands) argument
      · exact absurd (silent' affix stands) argument

end Delegate

end TreeTable

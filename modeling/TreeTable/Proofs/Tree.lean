import TreeTable.Proofs.Delegate
import TreeTable.Proofs.Place
import TreeTable.Proofs.Walk.Preorder

namespace TreeTable

theorem Value.lookIn_answers {α : Type} (position : Int) (elements : Array α) :
    Answers (fun _ => True) ((Value.int position).lookIn elements) := by
  unfold Value.lookIn
  rw [Value.isWithin, ok_bind]
  split <;> exact .ok trivial

theorem Roles.text_answers (roles : Roles) {role : Value} (named : role.canBeKey = true)
    (position : Int) : Answers (fun _ => True) (roles.text role (.int position)) := by
  rw [Roles.text, if_pos named]
  cases Entries.value? roles role with
  | none => exact .ok trivial
  | some data =>
    cases data with
    | list items =>
      refine (Value.lookIn_answers position items.toArray).bind fun found _ => ?_
      split <;> exact .ok trivial
    | null | bool | int | float | text | broken | object => exact .ok trivial

namespace Tree

variable {tree : Tree}

theorem text_eq (item : Item) (column : Nat) :
    tree.source.text ⟨item, .int column⟩ none =
      .ok ((item.values[column]?).map Value.cellText) := by
  have answer : tree.source.text ⟨item, .int column⟩ none = item.text? (.int column) := rfl
  rw [answer, Item.text?, Value.lookIn_nat]
  rfl

theorem shown_eq (parent : Option TreeCell) {row : Nat} {item : Item}
    (found : (tree.level false parent)[row]? = some item) (column : Nat) :
    tree.source.shown (.int row) (.int column) parent =
      .ok (((item.values[column]?).map Value.cellText).getD "") := by
  rw [Source.shown, Walk.cell_eq parent found, ok_bind, text_eq]
  rfl

theorem escaping_text (maxLength : Int) (parent : Option TreeCell) {row : Nat} {item : Item}
    (found : (tree.level false parent)[row]? = some item) (column : Nat) :
    (Delegate.escaping maxLength).text tree.source parent (.int row) (.int column) =
      .ok (Delegate.escapedText maxLength
        (((item.values[column]?).map Value.cellText).getD "")) := by
  rw [Delegate.escaping_text, shown_eq parent found]
  rfl

def headerNames (tree : Tree) : Axis → Array String
  | .row => tree.rowHeaders
  | .column => tree.headers

theorem header_eq (tree : Tree) (axis : Axis) (index : Nat) :
    tree.source.header axis (.int index) none =
      .ok ((((tree.headerNames axis)[index]?).map Value.text).getD .null) := by
  have answer : tree.source.header axis (.int index) none = (do
      let name ← Value.lookIn (.int index) (tree.headerNames axis)
      return (name.map Value.text).getD .null) := by
    cases axis <;> rfl
  rw [answer, Value.lookIn_nat]
  rfl

theorem escaping_headerText (maxLength : Int) (tree : Tree) (axis : Axis) (index : Nat) :
    ∃ text, (Delegate.escaping maxLength).headerText tree.source axis (.int index) =
      .ok (.text (Delegate.escapedText maxLength text)) := by
  have convert : ∀ text, MarkupStyle.convert
      { conversion := .escape, maxLength := .int maxLength } (.text text) =
        .ok (.text (Delegate.escapedText maxLength text)) := by
    intro text
    exact congrArg (Value.text <$> ·) (MarkupStyle.convertText_of_int rfl text)
  rw [Delegate.escaping_headerText, Source.headerShown, header_eq]
  cases (tree.headerNames axis)[index]? with
  | none => exact ⟨"", convert ""⟩
  | some name => exact ⟨name, convert name⟩

theorem answersHeaders {faults : Faults} (shown : faults.header = none)
    (roles : faults.headerRole = none) : (tree.faultySource faults).AnswersHeaders where
  shown axis index := by
    have answer : (tree.faultySource faults).header axis (.int index) none =
        tree.source.header axis (.int index) none := by
      simp only [faultySource, source, shown, Option.isNone_none, if_true]
    rw [answer, header_eq]
    cases (tree.headerNames axis)[index]? with
    | none => exact .ok (.inl rfl)
    | some name => exact .ok (.inr ⟨name, rfl⟩)
  role axis index role := by
    have answer : (tree.faultySource faults).header axis (.int index) (some (.text role)) = (do
        return ((← tree.headerText axis (.int index) (some (.text role))).map Value.text).getD
          .null) := by
      simp only [faultySource, roles, Option.isNone_some, Bool.false_eq_true, if_false,
        unlessFaulty]
    rw [answer]
    exact (Roles.text_answers _ rfl index).bind fun _ _ => .ok trivial

end Tree

end TreeTable

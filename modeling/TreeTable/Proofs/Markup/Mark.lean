import TreeTable.Markup.Escape

namespace TreeTable.Markup

def isMark (c : Char) : Bool := c == '<' || c == '>' || c == '"' || c == '\''

def marks (text : String) : List Char := text.toList.filter isMark

@[simp] theorem marks_append (text rest : String) :
    marks (text ++ rest) = marks text ++ marks rest := by
  simp [marks]

@[simp] theorem marks_empty : marks "" = [] := rfl

theorem marks_join (texts : List String) :
    marks (String.join texts) = (texts.map marks).flatten := by
  induction texts with
  | nil => rfl
  | cons text rest ih => rw [String.join_cons, marks_append, ih, List.map_cons, List.flatten_cons]

theorem filter_intercalate (separator : List Char) (texts : List (List Char)) :
    (separator.intercalate texts).filter isMark =
      (separator.filter isMark).intercalate (texts.map (List.filter isMark)) := by
  induction texts with
  | nil => rfl
  | cons first rest ih =>
    cases rest with
    | nil => simp
    | cons second rest =>
      rw [List.intercalate_cons_cons, List.filter_append, List.filter_append, ih, List.map_cons,
        List.map_cons, List.map_cons, List.intercalate_cons_cons]

theorem marks_intercalate (separator : String) (texts : List String) :
    marks (separator.intercalate texts) = (marks separator).intercalate (texts.map marks) := by
  rw [marks, String.toList_intercalate, filter_intercalate, List.map_map]
  rfl

theorem filter_entity (c : Char) : (entity c).filter isMark = [] := by
  unfold entity
  split
  · decide
  · decide
  · decide
  · decide
  · decide
  · next lt gt quot apos =>
    have plain : isMark c = false := by
      simp only [isMark, Bool.or_eq_false_iff, beq_eq_false_iff_ne]
      exact ⟨⟨⟨lt, gt⟩, quot⟩, apos⟩
    exact List.filter_cons_of_neg (by simp [plain])

theorem filter_escape (text : List Char) : (escape text).filter isMark = [] := by
  rw [escape, List.filter_flatMap]
  simp [filter_entity]

theorem isMark_of_mem_escape {text : List Char} {c : Char} (among : c ∈ escape text) :
    isMark c = false := by
  simpa using List.filter_eq_nil_iff.mp (filter_escape text) c among

end TreeTable.Markup

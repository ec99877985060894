import Mathlib.Data.List.DropRight
import TreeTable.Dashboard.Call
import TreeTable.Proofs.Place

namespace TreeTable

structure Assignment where
  row : String
  column : String
  value : Value

inductive Writing where
  | assign (assignment : Assignment)
  | clear

namespace Writing

def call : Writing → Call
  | .assign ⟨row, column, value⟩ => .setCell (.text row) (.text column) value
  | .clear => .clear

def assignment? : Writing → Option Assignment
  | .assign assignment => some assignment
  | .clear => none

/-- The assignments behind the last clearing. -/
def sinceClear (writings : List Writing) : List Assignment :=
  (writings.rtakeWhile fun writing => writing.assignment?.isSome).filterMap assignment?

theorem sinceClear_assign (writings : List Writing) (assignment : Assignment) :
    sinceClear (writings ++ [.assign assignment]) = sinceClear writings ++ [assignment] := by
  simp [sinceClear, assignment?]

theorem sinceClear_clear (writings : List Writing) : sinceClear (writings ++ [.clear]) = [] := by
  simp [sinceClear, assignment?]

end Writing

namespace Assignment

def isAt (row column : String) (assignment : Assignment) : Bool :=
  assignment.row == row && assignment.column == column

def lastText (assignments : List Assignment) (row column : String) : Option String :=
  (assignments.reverse.find? (isAt row column)).map fun assignment => assignment.value.cellText

theorem lastText_concat (assignments : List Assignment) (assignment : Assignment)
    (row column : String) :
    lastText (assignments ++ [assignment]) row column =
      if assignment.row = row ∧ assignment.column = column then some assignment.value.cellText
      else lastText assignments row column := by
  rw [lastText, List.reverse_append, List.reverse_singleton, List.singleton_append,
    List.find?_cons]
  by_cases same : assignment.row = row ∧ assignment.column = column
  · simp [isAt, same]
  · have elsewhere : isAt row column assignment = false := by simpa [isAt] using same
    simp [elsewhere, same, lastText]

end Assignment

theorem eraseDups_concat {α : Type} [BEq α] [LawfulBEq α] (names : List α) (name : α) :
    (names ++ [name]).eraseDups =
      if names.contains name then names.eraseDups else names.eraseDups ++ [name] := by
  rw [List.eraseDups_append]
  by_cases known : name ∈ names <;> simp [List.removeAll, known, List.eraseDups_cons]

theorem nodup_eraseDups {α : Type} [BEq α] [LawfulBEq α] (names : List α) :
    names.eraseDups.Nodup := by
  induction names using List.reverseRecOn with
  | nil => exact List.nodup_nil
  | append_singleton names name ih =>
    rw [eraseDups_concat]
    split
    · exact ih
    · rename_i unknown
      refine List.nodup_append.mpr ⟨ih, by simp, fun other among last isLast => ?_⟩
      rintro rfl
      obtain rfl := List.mem_singleton.mp isLast
      exact unknown (List.contains_iff_mem.mpr (List.mem_eraseDups.mp among))

theorem Value.text_beq_text (name other : String) :
    (Value.text name == .text other) = (name == other) := rfl

theorem Value.eq_of_beq_text {known : Value} {name : String}
    (same : (known == .text name) = true) : known = .text name := by
  cases known with
  | text s => exact congrArg _ (eq_of_beq same)
  | _ => simp [BEq.beq, Value.same, toInt?] at same

theorem Entries.value?_put_text {α : Type} (entries : Entries Value α) (name other : String)
    (value : α) : value? (put entries (.text name) value) (.text other) =
      if name = other then some value else value? entries (.text other) := by
  induction entries with
  | nil => by_cases same : name = other <;> simp [put, value?, Value.text_beq_text, same]
  | cons entry rest ih =>
    obtain ⟨known, old⟩ := entry
    cases found : known == .text name with
    | true =>
      obtain rfl := Value.eq_of_beq_text found
      by_cases same : name = other <;> simp [put, value?, Value.text_beq_text, same]
    | false =>
      simp only [put, found, Bool.false_eq_true, if_false, value?, ih]
      by_cases same : name = other
      · subst same
        simp [found]
      · simp [same]

namespace Matrix

structure Records (matrix : Matrix) (assignments : List Assignment) : Prop where
  rows : matrix.rowNames.toList = (assignments.map Assignment.row).eraseDups.map .text
  columns : matrix.columnNames.toList = (assignments.map Assignment.column).eraseDups.map .text
  texts : ∀ row column, matrix.value? (.text row) (.text column) =
    Assignment.lastText assignments row column

theorem records_empty : Records {} [] := ⟨rfl, rfl, fun _ _ => rfl⟩

theorem withName_text {names : Array Value} {used : List String}
    (known : names.toList = used.eraseDups.map .text) (name : String) :
    (withName names (.text name)).toList = (used ++ [name]).eraseDups.map .text := by
  have contains : names.contains (.text name) = used.contains name := by
    rw [← Array.contains_toList, known, List.contains_eq_any_beq, List.any_map]
    simp only [Function.comp_def, Value.text_beq_text]
    rw [← List.contains_eq_any_beq, Bool.eq_iff_iff, List.contains_iff_mem, List.contains_iff_mem,
      List.mem_eraseDups]
  rw [withName, contains, eraseDups_concat]
  split
  · exact known
  · rw [Array.toList_push, known, List.map_append, List.map_singleton]

theorem Records.set {matrix : Matrix} {assignments : List Assignment}
    (records : matrix.Records assignments) (assignment : Assignment) :
    Answers (Records · (assignments ++ [assignment]))
      (matrix.set (.text assignment.row) (.text assignment.column) assignment.value) := by
  obtain ⟨row, column, value⟩ := assignment
  refine .ok ⟨?_, ?_, fun row' column' => ?_⟩
  · rw [List.map_append, List.map_singleton]
    exact withName_text records.rows row
  · rw [List.map_append, List.map_singleton]
    exact withName_text records.columns column
  · rw [Assignment.lastText_concat, ← records.texts]
    simp only [value?, Entries.value?_put_text]
    by_cases sameRow : row = row'
    · subst sameRow
      rw [if_pos rfl, Option.bind_some, Entries.value?_put_text]
      by_cases sameColumn : column = column'
      · simp [sameColumn]
      · cases Entries.value? matrix.cells (.text row) <;> simp [sameColumn, Entries.value?]
    · simp [sameRow]

end Matrix

namespace Content

def performAll (content : Content) : List Call → Except Failure Content
  | [] => .ok content
  | call :: rest => do
    let (_, changed) ← content.perform call
    performAll (changed.getD content) rest

theorem performAll_append (content : Content) (calls more : List Call) :
    content.performAll (calls ++ more) =
      content.performAll calls >>= fun content => content.performAll more := by
  induction calls generalizing content with
  | nil => rfl
  | cons call rest ih =>
    simp only [List.cons_append, performAll, ih, bind_assoc]

theorem performAll_writing {matrix : Matrix} {writings : List Writing}
    (records : matrix.Records (Writing.sinceClear writings)) (writing : Writing) :
    ∃ after, (Content.matrix matrix).performAll [writing.call] = .ok (.matrix after) ∧
      after.Records (Writing.sinceClear (writings ++ [writing])) := by
  cases writing with
  | assign assignment =>
    obtain ⟨after, set, records⟩ := records.set assignment
    refine ⟨after, ?_, ?_⟩
    · simp only [performAll, Writing.call, perform, set, ok_bind]
      rfl
    · rw [Writing.sinceClear_assign]
      exact records
  | clear =>
    refine ⟨{}, rfl, ?_⟩
    rw [Writing.sinceClear_clear]
    exact Matrix.records_empty

theorem performAll_writings (writings : List Writing) :
    ∃ matrix, (Content.matrix {}).performAll (writings.map Writing.call) = .ok (.matrix matrix) ∧
      matrix.Records (Writing.sinceClear writings) := by
  induction writings using List.reverseRecOn with
  | nil => exact ⟨{}, rfl, Matrix.records_empty⟩
  | append_singleton writings writing ih =>
    obtain ⟨before, performed, records⟩ := ih
    obtain ⟨matrix, written, records⟩ := performAll_writing records writing
    refine ⟨matrix, ?_, records⟩
    rw [List.map_append, performAll_append, performed]
    exact written

theorem textOf_matrix {matrix : Matrix} {assignments : List Assignment}
    (records : matrix.Records assignments) (row column : Int) :
    (Content.matrix matrix).textOf [] (.int row) (.int column) none = .ok (do
      let row ← nth? (assignments.map Assignment.row).eraseDups row
      let column ← nth? (assignments.map Assignment.column).eraseDups column
      Assignment.lastText assignments row column) := by
  have asked : (Content.matrix matrix).textOf [] (.int row) (.int column) none =
      matrix.textAt ⟨.int row, .int column⟩ := rfl
  rw [asked, Matrix.textAt]
  simp only [Value.lookIn_int, ok_bind, records.rows, records.columns, nth?_map]
  cases nth? (assignments.map Assignment.row).eraseDups row with
  | none => rfl
  | some row =>
    cases nth? (assignments.map Assignment.column).eraseDups column with
    | none => rfl
    | some column => exact congrArg Except.ok (records.texts row column)

/-- However a new flat table is written to and cleared, its rows and its columns are the names used
since it was last cleared, none twice and in the order of their first use, and each cell shows the
text that was written last under its names, or nothing if none was or the table has no such cell. -/
theorem shows_last_writings (writings : List Writing) :
    let assignments := Writing.sinceClear writings
    let rows := (assignments.map Assignment.row).eraseDups
    let columns := (assignments.map Assignment.column).eraseDups
    ∃ matrix, (Content.matrix {}).performAll (writings.map Writing.call) = .ok (.matrix matrix) ∧
      rows.Nodup ∧ matrix.rowNames.toList = rows.map .text ∧
      columns.Nodup ∧ matrix.columnNames.toList = columns.map .text ∧
      (∀ row column : Int, (Content.matrix matrix).textOf [] (.int row) (.int column) none =
        .ok (do Assignment.lastText assignments (← nth? rows row) (← nth? columns column))) ∧
      ∀ row column, (Content.matrix matrix).perform (.cellNamed (.text row) (.text column)) =
        .ok (.text (Assignment.lastText assignments row column), none) := by
  intro assignments rows columns
  obtain ⟨matrix, performed, records⟩ := performAll_writings writings
  refine ⟨matrix, performed, nodup_eraseDups _, records.rows, nodup_eraseDups _, records.columns,
    textOf_matrix records, fun row column => ?_⟩
  rw [← records.texts]
  rfl

end Content

end TreeTable

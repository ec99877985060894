import TreeTable.Proofs.Csv.Records
import TreeTable.Proofs.Delegate
import TreeTable.Proofs.Html.Table

namespace TreeTable

variable {ν : Type}

/-- The options that a render reads before its first row are of their kinds. -/
structure Config.Suited (config : Config) : Prop where
  corner : config.topLeftHeader.IsText
  maxRows : config.maxRows = .null ∨ ∃ most, config.maxRows = .int most
  maxDepth : ∃ deepest, config.maxDepth = .int deepest
  separator : ∀ text ∈ config.separator, text.IsText
  recordSeparator : config.recordSeparator.IsText
  fieldQuote : ∀ text ∈ config.fieldQuote, text.IsText
  escapeChar : ∀ text ∈ config.escapeChar, text.IsText
  replacementChar : ∀ text ∈ config.replacementChar, text.IsText
  htmlPrefixRole : ∀ role ∈ config.htmlPrefixRole, role.IsText

theorem Config.Suited.rowCap {config : Config} (suited : config.Suited) :
    Answers (fun _ => True) config.rowCap := by
  unfold Config.rowCap
  rcases suited.maxRows with unlimited | ⟨most, whole⟩
  · rw [unlimited]
    exact .ok trivial
  · rw [whole]
    exact .ok trivial

theorem Config.Suited.ceiling {config : Config} (suited : config.Suited) :
    Answers (fun _ => True) (Walk.ceiling config.maxDepth) := by
  obtain ⟨deepest, whole⟩ := suited.maxDepth
  rw [whole]
  exact .ok trivial

namespace Csv

theorem members_answers {data : Value} (isText : data.IsText) :
    Answers (fun members => ∀ c ∈ members, c.IsText) data.members := by
  obtain ⟨text, rfl⟩ := isText
  rw [members_text]
  exact .ok (List.forall_mem_map.mpr fun c _ => ⟨_, rfl⟩)

theorem join_answers {separator : Value} (isText : separator.IsText) {parts : List Value}
    (areTexts : ∀ part ∈ parts, part.IsText) :
    Answers (fun _ => True) (separator.join parts) := by
  obtain ⟨text, rfl⟩ := isText
  have texts := Answers.mapM fun part among => (areTexts part among).asText
  exact texts.bind fun texts _ => .ok trivial

structure FieldFormat.Textual (format : FieldFormat) : Prop where
  quote : ∀ text ∈ format.quote, text.IsText
  escape : ∀ text ∈ format.escape, text.IsText
  replacement : ∀ text ∈ format.replacement, text.IsText

def Part.Textual : Part → Prop
  | .kept c => c.IsText
  | .guard => True

namespace FieldFormat

variable {format : FieldFormat}

theorem optional_answers {option : Option Value} (isText : ∀ text ∈ option, text.IsText) :
    Answers (fun _ => True) (option.getD (.text "")).asText := by
  cases option with
  | none => exact .ok trivial
  | some text => exact (isText text rfl).asText

theorem guardText_answers (textual : format.Textual) :
    Answers (fun _ => True) format.guardText := by
  refine optional_answers fun text among => ?_
  cases escape : format.escape with
  | some escape' =>
    rw [escape] at among
    exact textual.escape text (escape.trans among)
  | none =>
    rw [escape] at among
    exact textual.replacement text among

theorem collapse_textual {raw : List Value} (areTexts : ∀ c ∈ raw, c.IsText) (inRun : Bool) :
    ∀ part ∈ format.collapse inRun raw, part.Textual := by
  induction raw generalizing inRun with
  | nil => exact fun part among => nomatch among
  | cons c raw ih =>
    obtain ⟨first, rest⟩ := List.forall_mem_cons.mp areTexts
    rw [collapse]
    split
    · refine List.forall_mem_append.mpr ⟨fun part among => ?_, ih rest true⟩
      cases inRun with
      | true => cases among
      | false =>
        obtain rfl := List.mem_singleton.mp among
        exact trivial
    · exact List.forall_mem_cons.mpr ⟨first, ih rest false⟩

theorem protect_textual {raw : List Value} (areTexts : ∀ c ∈ raw, c.IsText) :
    ∀ part ∈ format.protect raw, part.Textual := by
  unfold protect
  split
  · intro part among
    obtain ⟨c, given, among⟩ := List.mem_flatMap.mp among
    split at among
    · rcases List.mem_cons.mp among with rfl | among
      · exact trivial
      · obtain rfl := List.mem_singleton.mp among
        exact areTexts c given
    · obtain rfl := List.mem_singleton.mp among
      exact areTexts c given
  split
  · exact collapse_textual areTexts false
  · intro part among
    obtain ⟨c, given, rfl⟩ := List.mem_map.mp among
    exact areTexts c (List.mem_filter.mp given).1

theorem partText_answers (textual : format.Textual) {part : Part} (isText : part.Textual) :
    Answers (fun _ => True) (format.partText part) := by
  cases part with
  | kept c => exact Value.IsText.asText isText
  | guard => exact guardText_answers textual

theorem write_answers (textual : format.Textual) {raw : Value} (isText : raw.IsText) :
    Answers Value.IsText (format.write raw) := by
  unfold write
  split
  · refine (members_answers isText).bind fun members areTexts => ?_
    have parts : ∀ part ∈ format.protect members, part.Textual := protect_textual areTexts
    refine (Answers.mapM fun part among => partText_answers textual (parts part among)).bind
      fun texts _ => ?_
    exact (optional_answers textual.quote).bind fun quote _ => .ok ⟨_, rfl⟩
  · exact .ok isText

theorem ofConfig_answers {config : Config} (suited : config.Suited) {separator : Value}
    (isText : separator.IsText) : Answers Textual (ofConfig config separator) := by
  have members : ∀ {text : Value}, text.IsText → Answers (fun _ => True) text.members :=
    fun isText => (members_answers isText).comes
  unfold ofConfig
  extract_lets written
  have rest : ∀ escapes, Answers Textual (written escapes) := by
    intro escapes
    have ends : ∀ others, Answers Textual (.ok ⟨config.fieldQuote, config.escapeChar,
        config.replacementChar, escapes ++ others⟩ : Except Failure FieldFormat) :=
      fun others => .ok ⟨suited.fieldQuote, suited.escapeChar, suited.replacementChar⟩
    dsimp only [written]
    split
    · rename_i quote given
      exact (members (suited.fieldQuote quote given)).bind fun others _ => ends others
    · refine (members isText).bind fun separators _ => ?_
      exact (members suited.recordSeparator).bind fun ends' _ => ends (separators ++ ends')
  split
  · rename_i escape given
    exact (members (suited.escapeChar escape given)).bind fun escapes _ => rest escapes
  · exact rest []

end FieldFormat

namespace Writer

structure WritesFor (config : Config) (delegate : Delegate) (writer : Writer) : Prop where
  config : writer.config = config
  delegate : writer.delegate = delegate
  separator : writer.separator.IsText
  format : writer.format.Textual

theorem ofConfig_answers {config : Config} (suited : config.Suited) (delegate : Delegate)
    (nested : Bool) : Answers (WritesFor config delegate) (ofConfig config delegate nested) := by
  have separator : (config.separator.getD (.text defaultSeparator)).IsText := by
    cases given : config.separator with
    | none => exact Value.isText_text _
    | some separator => exact suited.separator separator given
  refine (FieldFormat.ofConfig_answers suited separator).bind fun format textual => .ok ?_
  exact ⟨rfl, rfl, separator, textual⟩

theorem head_answers {config : Config} {delegate : Delegate} {writer : Writer}
    (writes : writer.WritesFor config delegate) (suited : config.Suited)
    (suited' : delegate.Suited) {source : Source ν} (headers : source.AnswersHeaders)
    {columns : Int} (width : source.columnCount none = .ok columns) :
    Answers (fun _ => True) (writer.head source) := by
  obtain ⟨rfl, rfl, separator, textual⟩ := writes
  have fields : Answers (fun fields => ∀ field ∈ fields, field.IsText)
      (writer.headerFields source 0 columns.toNat) := by
    rw [headerFields_eq]
    exact .mapM fun column _ => (Delegate.headerText_answers headers suited' column).bind
      fun header isText => FieldFormat.write_answers textual isText
  have line : ∀ corner : List Value, (∀ field ∈ corner, field.IsText) →
      Answers (fun _ => True) (source.columnCount none >>= fun columns =>
        writer.headerFields source 0 columns.toNat >>= fun fields =>
          writer.record (corner ++ fields)) := by
    intro corner areTexts
    rw [width]
    refine fields.bind fun fields areTexts' => ?_
    have joined := join_answers separator (List.forall_mem_append.mpr ⟨areTexts, areTexts'⟩)
    exact joined.bind fun line _ => suited.recordSeparator.asText.bind fun _ _ => .ok trivial
  unfold head
  split
  · unfold headerLine
    split
    · refine (FieldFormat.write_answers textual suited.corner).bind fun corner isText => ?_
      exact line [corner] (List.forall_mem_singleton.mpr isText)
    · exact line [] fun field among => nomatch among
  · exact .ok trivial

end Writer

end Csv

namespace Html.Table

theorem headerRole_answers {source : Source ν} (headers : source.AnswersHeaders) (axis : Axis)
    (index : Nat) {name : Option Value} (isText : ∀ role ∈ name, role.IsText) :
    Answers (fun _ => True) (headerRole source axis index name) := by
  cases name with
  | none => exact .ok trivial
  | some role =>
    obtain ⟨role, rfl⟩ := isText role rfl
    obtain ⟨answer, given, -⟩ := headers.role axis index role
    rw [headerRole, Source.decoration, given]
    exact .ok trivial

theorem headerCells_answers {source : Source ν} (headers : source.AnswersHeaders)
    {delegate : Delegate} (suited : delegate.Suited) {config : Config} (suited' : config.Suited)
    (column left : Nat) :
    Answers (fun _ => True) (headerCells config delegate source column left) := by
  induction left generalizing column with
  | zero => exact .ok trivial
  | succ left ih =>
    exact (headerRole_answers headers .column column suited'.htmlPrefixRole).bind fun _ _ =>
      (Delegate.headerText_answers headers suited column).bind fun _ _ =>
        (ih (column + 1)).bind fun _ _ => .ok trivial

theorem head_answers {source : Source ν} (headers : source.AnswersHeaders)
    {delegate : Delegate} (suited : delegate.Suited) {config : Config} (suited' : config.Suited)
    (columns : Nat) : Answers (fun _ => True) (head config delegate source columns) := by
  have header : Answers (fun _ => True)
      (if config.columnHeaders then headerRow config delegate source columns else .ok "") := by
    split
    · exact (headerCells_answers headers suited suited' 0 columns).bind fun _ _ => .ok trivial
    · exact .ok trivial
  exact header.bind fun _ _ => .ok trivial

end Html.Table

end TreeTable

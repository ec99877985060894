import TreeTable.Proofs.Header
import TreeTable.Proofs.Tree

namespace TreeTable

open Render

variable {ν α : Type}

namespace Walk

def rootFailure (rows columns deepest : Int) : Failure :=
  if deepest < 0 then .tooDeep
  else if rows < 0 then .negativeCount .rows rows none
  else .negativeCount .columns columns none

theorem kind_rootFailure (rows columns deepest : Int) :
    (rootFailure rows columns deepest).kind = .inconsistent := by
  unfold rootFailure
  split
  · rfl
  · split <;> rfl

variable {source : Source ν} {rows columns : Int}

theorem script_of_negative (height : source.rowCount none = .ok rows)
    (width : source.columnCount none = .ok columns) (negative : rows < 0 ∨ columns < 0)
    (recursive : Bool) (deepest : Int) (budget : Option Budget) :
    script source none 0 recursive deepest budget =
      Script.ask (.error (rootFailure rows columns deepest)) := by
  rcases Int.lt_or_le deepest 0 with below | enters
  · rw [script_of_lt source none below, rootFailure, if_pos below]
  · obtain ⟨levels, count⟩ : ∃ levels, (deepest + 1 - 0).toNat = levels + 1 :=
      Nat.exists_eq_add_one.mpr (by omega)
    rw [script, count, levelScript, rootFailure, if_neg (Int.not_lt.mpr enters), Source.rows,
      height, ok_bind, Source.checked]
    by_cases fewer : rows < 0
    · rw [if_pos fewer, if_pos fewer]
      rfl
    · have narrower : columns < 0 := negative.resolve_left fewer
      rw [if_neg fewer, if_neg fewer, Script.ask_ok_bind, Source.columns, width, ok_bind,
        Source.checked, if_pos narrower]
      rfl

end Walk

namespace Render

variable {source : Source ν} {rows columns : Int}

theorem answer_walkAll_of_negative (height : source.rowCount none = .ok rows)
    (width : source.columnCount none = .ok columns) (negative : rows < 0 ∨ columns < 0)
    (config : Config) (visit : Event ν → Render Unit) (recursive : Bool) (budget : Option Budget)
    (next : Bool → Render α) (refusal : Nat → Option Failure) :
    answer refusal (walkAll config source visit recursive budget >>= next) =
      Walk.ceiling config.maxDepth >>= fun deepest =>
        .error (Walk.rootFailure rows columns deepest) := by
  rw [walkAll_eq, bind_assoc, answer_of_bind]
  refine congrArg (Walk.ceiling config.maxDepth >>= ·) (funext fun deepest => ?_)
  rw [Walk.script_of_negative height width negative]
  rfl

end Render

namespace Serializer

def preamble (serializer : Serializer) (source : Source ν) : Except Failure Unit :=
  let delimited (nested : Bool) : Except Failure Unit := do
    let writer ← Csv.Writer.ofConfig serializer.config serializer.delegate nested
    let _ ← writer.head source
  match serializer.format with
  | .csv => delimited false
  | .csvTree => delimited true
  | .htmlSet | .htmlList => .ok ()
  | .htmlTable => do
    let columns ← source.columnCount none
    let _ ← Html.Table.head serializer.config serializer.delegate source columns.toNat
    let _ ← serializer.config.rowCap

theorem preamble_answers {serializer : Serializer} (suited : serializer.config.Suited)
    (suited' : serializer.delegate.Suited) {source : Source ν} (headers : source.AnswersHeaders)
    {columns : Int} (width : source.columnCount none = .ok columns) :
    serializer.preamble source = .ok () := by
  have delimited : ∀ nested, Answers (fun _ => True) (do
      let writer ← Csv.Writer.ofConfig serializer.config serializer.delegate nested
      let _ ← writer.head source : Except Failure Unit) := by
    intro nested
    refine (Csv.Writer.ofConfig_answers suited serializer.delegate nested).bind fun writer writes =>
      ?_
    exact (Csv.Writer.head_answers writes suited suited' headers width).bind fun _ _ => .ok trivial
  have answers : Answers (fun _ => True) (serializer.preamble source) := by
    unfold preamble
    cases serializer.format with
    | csv => exact delimited false
    | csvTree => exact delimited true
    | htmlSet | htmlList => exact .ok trivial
    | htmlTable =>
      dsimp only
      rw [width]
      exact (Html.Table.head_answers headers suited' suited columns.toNat).bind
        fun _ _ => suited.rowCap.bind fun _ _ => .ok trivial
  obtain ⟨_, same, -⟩ := answers
  exact same

section

variable {source : Source ν} {rows columns : Int}

theorem answer_delimited (height : source.rowCount none = .ok rows)
    (width : source.columnCount none = .ok columns) (negative : rows < 0 ∨ columns < 0)
    (config : Config) (delegate : Delegate) (nested : Bool) (next : String → Render α)
    (refusal : Nat → Option Failure) :
    answer refusal (Step.of (Csv.Writer.ofConfig config delegate nested) >>= fun writer =>
        writer.render source >>= next) =
      (do
        let writer ← Csv.Writer.ofConfig config delegate nested
        let _ ← writer.head source) >>= fun _ : Unit =>
          Walk.ceiling config.maxDepth >>= fun deepest =>
            .error (Walk.rootFailure rows columns deepest) := by
  rw [answer_of_bind, Csv.Writer.ofConfig]
  cases Csv.FieldFormat.ofConfig config (config.separator.getD (.text Csv.defaultSeparator)) with
  | error failure => rfl
  | ok format =>
    simp only [ok_bind, pure_bind, Csv.Writer.render_eq, bind_assoc, answer_of_bind]
    refine congrArg (_ >>= ·) (funext fun header => ?_)
    exact answer_walkAll_of_negative height width negative _ _ _ _ _ refusal

theorem answer_of_negative (height : source.rowCount none = .ok rows)
    (width : source.columnCount none = .ok columns) (negative : rows < 0 ∨ columns < 0)
    (serializer : Serializer) (walks : ¬(serializer.format = .htmlTable ∧ rows = 0))
    (refusal : Nat → Option Failure) :
    answer refusal (serializer.render source) =
      serializer.preamble source >>= fun _ =>
        Walk.ceiling serializer.config.maxDepth >>= fun deepest =>
          .error (Walk.rootFailure rows columns deepest) := by
  obtain ⟨format, config, delegate⟩ := serializer
  cases format with
  | csv => exact answer_delimited height width negative config delegate false _ refusal
  | csvTree => exact answer_delimited height width negative config delegate true _ refusal
  | htmlSet =>
    exact (congrArg (answer refusal) (bind_assoc _ _ _)).trans
      (answer_walkAll_of_negative height width negative config _ _ _ _ refusal)
  | htmlList =>
    exact (congrArg (answer refusal) (bind_assoc _ _ _)).trans
      (answer_walkAll_of_negative height width negative config _ _ _ _ refusal)
  | htmlTable =>
    have someRows : rows ≠ 0 := fun none => walks ⟨rfl, none⟩
    have begins : (⟨.htmlTable, config, delegate⟩ : Serializer).render source =
        Html.Table.render config delegate source >>= fun rendered =>
          pure (.text rendered.1, rendered.2) := rfl
    rw [begins, Html.Table.render_eq, bind_assoc, answer_of_bind, preamble, width, ok_bind]
    dsimp only
    rw [bind_assoc, answer_of_bind, ok_bind, bind_assoc]
    refine congrArg (_ >>= ·) (funext fun opening => ?_)
    rw [height, bind_assoc, answer_of_bind, ok_bind, if_neg someRows, Html.Table.filled,
      Html.Table.body, bind_assoc, bind_assoc, answer_of_bind, bind_assoc]
    refine congrArg (_ >>= ·) (funext fun cap => ?_)
    rw [bind_assoc]
    exact answer_walkAll_of_negative height width negative config _ _ _ _ refusal

end

end Serializer

def Html.Table.withoutColumns (config : Config) : String :=
  let corner := if config.rowHeaders then "<th>" ++ config.topLeftHeader.display ++ "</th>" else ""
  let header := if config.columnHeaders then "<tr>" ++ corner ++ "</tr>\n" else ""
  "<table" ++ classAttribute config.tableClass ++ ">\n" ++ header ++
    placeholder config (if config.rowHeaders then 1 else 0) ++ "</table>\n"

theorem Html.Table.answer_withoutColumns {source : Source ν} {columns : Int}
    (height : source.rowCount none = .ok 0) (width : source.columnCount none = .ok columns)
    (negative : columns < 0) (config : Config) (delegate : Delegate)
    (refusal : Nat → Option Failure) :
    answer refusal (render config delegate source) = .ok (withoutColumns config, none) := by
  have noColumns : columns.toNat = 0 := Int.toNat_of_nonpos (Int.le_of_lt negative)
  rw [render_eq, answer_of_bind, width, ok_bind, noColumns, Nat.zero_add]
  dsimp only
  rw [answer_of_bind, height]
  have opening : head config delegate source 0 =
      .ok ("<table" ++ classAttribute config.tableClass ++ ">\n" ++
        if config.columnHeaders then "<tr>" ++
          (if config.rowHeaders then "<th>" ++ config.topLeftHeader.display ++ "</th>" else "") ++
            "</tr>\n"
        else "") := by
    unfold head headerRow headerCells
    cases config.columnHeaders with
    | false => rfl
    | true =>
      simp only [if_true, ok_bind, pure_bind, String.join_nil, String.append_empty]
      rfl
  rw [opening]
  rfl

namespace Serializer

/-- A source that counts less than no rows or less than no columns for its root is turned down
before its first row is asked for, whatever the format. Only a markup table does not look at the
columns of a source of no rows. -/
theorem outcome_of_negative_counts {source : Source ν} {rows columns : Int}
    (height : source.rowCount none = .ok rows) (width : source.columnCount none = .ok columns)
    (negative : rows < 0 ∨ columns < 0) (serializer : Serializer)
    (refusal : Nat → Option Failure) :
    let outcome := (serializer.rendering refusal source).outcome
    let unwalked := serializer.format = .htmlTable ∧ rows = 0
    (¬unwalked → ∀ text, outcome ≠ .ok text) ∧
    (¬unwalked → source.AnswersHeaders → serializer.config.Suited → serializer.delegate.Suited →
      ∃ deepest, serializer.config.maxDepth = .int deepest ∧
        outcome = .error (Walk.rootFailure rows columns deepest) ∧
        (Walk.rootFailure rows columns deepest).kind = .inconsistent) ∧
    (unwalked → outcome = .ok (.text (Html.Table.withoutColumns serializer.config))) := by
  intro outcome unwalked
  have rendered : outcome = Prod.fst <$> answer refusal (serializer.render source) :=
    serializer.outcome_rendering refusal source
  refine ⟨fun walks text returns => ?_, fun walks headers suited suited' => ?_, fun unwalked => ?_⟩
  · rw [rendered, answer_of_negative height width negative serializer walks refusal] at returns
    obtain ⟨given, answered, -⟩ := map_eq_ok.mp returns
    obtain ⟨_, -, answered⟩ := bind_eq_ok.mp answered
    obtain ⟨deepest, -, answered⟩ := bind_eq_ok.mp answered
    cases answered
  · obtain ⟨deepest, whole⟩ := suited.maxDepth
    refine ⟨deepest, whole, ?_, Walk.kind_rootFailure rows columns deepest⟩
    rw [rendered, answer_of_negative height width negative serializer walks refusal,
      preamble_answers suited suited' headers width, whole]
    rfl
  · obtain ⟨isTable, rfl⟩ := unwalked
    have narrower : columns < 0 := negative.resolve_left (Int.lt_irrefl 0)
    obtain ⟨format, config, delegate⟩ := serializer
    subst isTable
    have table := Html.Table.outcome_eq config delegate source refusal
    rw [Html.Table.answer_withoutColumns height width narrower config delegate refusal] at table
    exact table

def fewerThanNoRows : Source TreeCell :=
  Walk.threeRows.faultySource { rowCount := some (-1) }

theorem outcome_fewerThanNoRows :
    ((⟨.htmlTable, {}, .markup {}⟩ : Serializer).rendering (fun _ => none)
      fewerThanNoRows).outcome = .error (.negativeCount .rows (-1) none) := by
  have headers : fewerThanNoRows.AnswersHeaders := Tree.answersHeaders rfl rfl
  have suited : ({} : Config).Suited :=
    ⟨⟨_, rfl⟩, .inr ⟨_, rfl⟩, ⟨_, rfl⟩, nofun, ⟨_, rfl⟩, nofun, nofun, nofun, nofun⟩
  have suited' : (Delegate.markup {}).Suited := ⟨⟨_, rfl⟩, by simp⟩
  have walks : ¬(Format.htmlTable = .htmlTable ∧ (-1 : Int) = 0) := by decide
  have height : fewerThanNoRows.rowCount none = .ok (-1) := rfl
  have width : fewerThanNoRows.columnCount none = .ok 1 := rfl
  obtain ⟨deepest, whole, outcome, -⟩ := (outcome_of_negative_counts height width
    (.inl (by decide)) ⟨.htmlTable, {}, .markup {}⟩ fun _ => none).2.1 walks headers suited suited'
  obtain rfl := Value.int.inj whole
  exact outcome

theorem outcome_fewerThanNoColumns :
    let faults : Faults := { rowCount := some 0, columnCount := some (-1) }
    (({} : Tree).faultySource faults).columnCount none = .ok (-1) ∧
    (({} : Tree).faultySource faults).AnswersHeaders ∧
    ((⟨.htmlTable, {}, .plain⟩ : Serializer).serialize (some (.tree {} (some faults)))).outcome =
      .ok (.text ("<table>\n<tr></tr>\n<tr><td colspan=0>(empty)</td></tr>\n</table>\n")) :=
  ⟨rfl, Tree.answersHeaders rfl rfl, rfl⟩

end Serializer

end TreeTable

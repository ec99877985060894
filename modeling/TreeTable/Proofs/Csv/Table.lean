import TreeTable.Proofs.Render

namespace TreeTable.Csv

open Render Walk

variable {ν : Type}

namespace Writer

variable (writer : Writer) (source : Source ν)

def headerField (row : Row ν) : Except Failure (List Value) := do
  let text ← writer.delegate.headerText source .row (.int row.number)
  return [← writer.field text]

def cellField (row : Row ν) (column : Nat) : Except Failure Value := do
  let text ← writer.delegate.text source row.parent (.int row.number) (.int column)
  writer.field (.text (writer.indent column row.depth ++ text))

def rowFields (row : Row ν) : Except Failure (List Value) := do
  let columns ← source.columns row.parent
  let header ← (if writer.config.rowHeaders then writer.headerField source row else .ok [])
  let cells ← (List.range columns).mapM (writer.cellField source row)
  return header ++ cells

def rowLine (row : Row ν) : Except Failure String := do
  writer.record (← writer.rowFields source row)

theorem fills_cells (row : Row ν) (column left : Nat) :
    Fills (cells (writer.visit source) row.parent row.number row.depth column left)
      ((List.range' column left).mapM (writer.cellField source row)) := by
  induction left generalizing column with
  | zero => exact fills_nothing
  | succ left ih =>
    have first : Fills (writer.visit source (.cell row.parent row.number column row.depth))
        (writer.cellField source row column >>= fun field => .ok [field]) := by
      unfold visit cellField
      rw [bind_assoc]
      exact (tells_ask _ _ _ _ _).andThen fun text => (tells_of _).andThen fun field =>
        fills_addCell field
    have both := first.append (ih (column + 1))
    rw [bind_assoc] at both
    rw [cells, List.range'_succ, List.mapM_cons]
    exact both

theorem fills_header (row : Row ν) :
    Fills (if writer.config.rowHeaders then do
        let text ← Step.of (writer.delegate.headerText source .row (.int row.number))
        addCell (← Step.of (writer.field text))
      else pure ())
      (if writer.config.rowHeaders then writer.headerField source row else .ok []) := by
  cases writer.config.rowHeaders with
  | false => exact fills_nothing
  | true =>
    exact (tells_of _).andThen fun text => (tells_of _).andThen fun field => fills_addCell field

theorem writesRows : WritesRows source (writer.visit source) (writer.rowLine source) where
  silent act isRow := by
    cases act with
    | row => cases isRow
    | enter | close | leave => rfl
  row row columns count := by
    have fills := (writer.fills_header source row).append (writer.fills_cells source row 0 columns)
    rw [← List.range_eq_range'] at fills
    have fields : writer.rowFields source row = ((if writer.config.rowHeaders then
        writer.headerField source row else .ok []) >>= fun header =>
          (List.range columns).mapM (writer.cellField source row) >>= fun cells =>
            .ok (header ++ cells)) := by
      rw [rowFields, count]
      rfl
    rw [← fields] at fills
    have writes := writes_of_fills fills writer.record
    have steps : (Act.row row columns).perform (writer.visit source) =
        clearCells >>= fun _ => ((if writer.config.rowHeaders then do
            let text ← Step.of (writer.delegate.headerText source .row (.int row.number))
            addCell (← Step.of (writer.field text))
          else pure ()) >>= fun _ =>
            cells (writer.visit source) row.parent row.number row.depth 0 columns) >>= fun _ =>
              rowCells >>= fun collected => Step.of (writer.record collected) >>= write := by
      simp only [Act.perform, visit, bind_assoc]
    rw [steps]
    exact writes

def head : Except Failure String :=
  if writer.config.columnHeaders then writer.headerLine source else .ok ""

theorem render_eq : writer.render source =
    Step.of (writer.head source) >>= fun header =>
      walkAll writer.config source (writer.visit source) writer.nested none >>= fun _ =>
        written >>= fun lines => pure (header ++ String.join lines) := by
  unfold render head
  cases writer.config.columnHeaders <;> rfl

end Writer

theorem Writer.of_ofConfig {config : Config} {delegate : Delegate} {nested : Bool} {writer : Writer}
    (made : Writer.ofConfig config delegate nested = .ok writer) :
    writer.config = config ∧ writer.nested = nested := by
  obtain ⟨format, -, same⟩ := bind_eq_ok.mp made
  obtain rfl := Except.ok.inj same
  exact ⟨rfl, rfl⟩

def format (nested : Bool) : Format := if nested then .csvTree else .csv

def output (config : Config) (delegate : Delegate) (source : Source ν) (nested : Bool) :
    Except Failure Value := do
  let writer ← Writer.ofConfig config delegate nested
  let header ← writer.head source
  rowByRow writer.config source (writer.rowLine source) writer.nested none fun _ lines =>
    .text (header ++ lines)

theorem render_serializer (config : Config) (delegate : Delegate) (source : Source ν)
    (nested : Bool) : (⟨format nested, config, delegate⟩ : Serializer).render source =
      Step.of (Writer.ofConfig config delegate nested) >>= fun writer =>
        writer.render source >>= fun text => pure (.text text, none) := by
  cases nested <;> rfl

theorem rendering_comes (config : Config) (delegate : Delegate) (source : Source ν) (nested : Bool)
    (refusal : Nat → Option Failure) :
    UnlessRefused refusal
      ((⟨format nested, config, delegate⟩ : Serializer).rendering refusal source).outcome
      (output config delegate source nested) := by
  rw [Serializer.outcome_rendering, render_serializer, answer_of_bind, output]
  simp only [Writer.render_eq, bind_assoc, answer_of_bind, map_bind]
  refine .bind (fun writer => .bind (fun header => ?_) _) _
  have comes := answer_walkAll (writer.writesRows source) writer.config writer.nested none
    (fun _ => do return (Value.text (header ++ String.join (← written)), none))
    (fun _ lines => (Value.text (header ++ lines), (none : Option Value)))
    (fun _ _ => rfl) refusal
  have texts := comes.map Prod.fst
  rw [map_rowByRow] at texts
  simpa only [bind_assoc, pure_bind] using texts

end TreeTable.Csv

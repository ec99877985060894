import TreeTable.Content
import TreeTable.Proofs.Render
import TreeTable.Proofs.Walk.TreeScript

namespace TreeTable.Html

open Render Walk

variable {ν : Type}

def decoratedText (config : Config) (delegate : Delegate) (source : Source ν) (parent : Option ν)
    (row column : Value) : Except Failure String := do
  let node ← source.cell row column parent
  let text ← delegate.text source parent row column
  let address ← role source node config.linkRole
  let className ← if address.isEmpty then pure "" else role source node config.linkClassRole
  let markup ← role source node config.htmlPrefixRole
  return markup ++ linked text address className

theorem tells_decorated (config : Config) (delegate : Delegate) (source : Source ν)
    (parent : Option ν) (row column : Value) :
    Tells (decorated config delegate source parent row column)
      (decoratedText config delegate source parent row column) := by
  unfold decorated decoratedText
  refine (tells_of _).andThen fun node => (tells_ask _ _ _ _ _).andThen fun text =>
    (tells_of _).andThen fun address => ?_
  cases address.isEmpty with
  | true => exact (tells_of _).andThen fun markup => tells_pure _
  | false =>
    exact (tells_of _).andThen fun className => (tells_of _).andThen fun markup => tells_pure _

namespace Table

def cellMarkup (config : Config) (delegate : Delegate) (source : Source ν) (row : Row ν)
    (column : Nat) : Except Failure String := do
  let node ← source.cell (.int row.number) (.int column) row.parent
  let className ← role source node config.cellClassRole
  let text ← decoratedText config delegate source row.parent (.int row.number) (.int column)
  return "<td" ++ classAttribute className ++ ">" ++ indent column row.depth ++ text ++ "</td>"

def rowOpening (config : Config) (delegate : Delegate) (source : Source ν) (row : Row ν) :
    Except Failure String := do
  let first ← source.cell (.int row.number) (.int 0) row.parent
  let className ← role source first config.rowClassRole
  let header ← (if config.rowHeaders then rowHeader config delegate source row.number else .ok "")
  return "<tr" ++ classAttribute className ++ ">" ++ header

def rowMarkup (config : Config) (delegate : Delegate) (source : Source ν) (row : Row ν) :
    Except Failure String := do
  let columns ← source.columns row.parent
  let opening ← rowOpening config delegate source row
  let cells ← (List.range columns).mapM (cellMarkup config delegate source row)
  return opening ++ (String.join cells ++ "</tr>\n")

theorem writes_cells (config : Config) (delegate : Delegate) (source : Source ν) (row : Row ν)
    (column left : Nat) :
    Writes (cells (visit config delegate source) row.parent row.number row.depth column left)
      (String.join <$> (List.range' column left).mapM (cellMarkup config delegate source row)) := by
  induction left generalizing column with
  | zero => exact writes_nothing
  | succ left ih =>
    have first : Writes (visit config delegate source
        (.cell row.parent row.number column row.depth))
        (cellMarkup config delegate source row column) := by
      unfold visit cellMarkup
      exact (tells_of _).andThen fun node => (tells_of _).andThen fun className =>
        (tells_decorated _ _ _ _ _ _).andThen fun text => writes_write _
    rw [cells, List.range'_succ, join_mapM_cons]
    exact first.append (ih (column + 1))

theorem writesRows (config : Config) (delegate : Delegate) (source : Source ν) :
    WritesRows source (visit config delegate source) (rowMarkup config delegate source) where
  silent act isRow := by
    cases act with
    | row => cases isRow
    | enter | close | leave => rfl
  row row columns count := by
    have begun : Writes (visit config delegate source
        (.beginRow row.parent row.number row.depth)) (rowOpening config delegate source row) := by
      have header : Writes
          (if config.rowHeaders then do
            write (← Step.of (rowHeader config delegate source row.number))
          else pure ())
          (if config.rowHeaders then rowHeader config delegate source row.number else .ok "") := by
        cases config.rowHeaders with
        | true =>
          have shown : Writes (Step.of (rowHeader config delegate source row.number) >>= write)
              (rowHeader config delegate source row.number >>= pure) :=
            (tells_of _).andThen writes_write
          rwa [bind_pure] at shown
        | false => exact writes_nothing
      unfold visit rowOpening
      exact (tells_of _).andThen fun first => (tells_of _).andThen fun className =>
        (writes_write _).append header
    have ended : Writes (visit config delegate source
        (.endRow row.parent row.number row.depth)) (.ok "</tr>\n") := writes_write _
    have whole := begun.append ((writes_cells config delegate source row 0 columns).append ended)
    rw [← List.range_eq_range'] at whole
    simp only [map_eq_pure_bind, bind_assoc] at whole
    rw [rowMarkup, count]
    exact whole

def shown (cap : Option Value) (rows : Nat) : Nat :=
  match cap.bind Budget.capOf with
  | none => rows
  | some limit => min rows limit.toNat

theorem room_ofLimit (cap : Option Value) (rows : Nat) :
    room (some (Budget.ofLimit cap)) rows = shown cap rows := by
  cases limit : cap.bind Budget.capOf with
  | none => simp [room, Budget.ofLimit, shown, limit]
  | some limit' => simp [room, Budget.ofLimit, shown, limit]

theorem shown_pos {config : Config} {cap : Option Value} (capped : config.rowCap = .ok cap)
    (whole : ∀ x, config.maxRows ≠ .float x) {rows : Nat} (begins : 0 < rows) :
    0 < shown cap rows := by
  have limited : ∀ limit, cap.bind Budget.capOf = some limit → 0 < limit := by
    intro limit found
    unfold Config.rowCap at capped
    cases most : config.maxRows with
    | float x => exact absurd most (whole x)
    | null =>
      rw [most, Except.ok.injEq] at capped
      cases capped ▸ found
    | int n =>
      rw [most] at capped
      obtain rfl := pure_eq_ok.mp capped
      by_cases positive : 0 < n
      · rw [if_pos (decide_eq_true positive)] at found
        exact Option.some.inj found ▸ positive
      · rw [if_neg (by simpa using positive)] at found
        cases found
    | bool b =>
      rw [most] at capped
      obtain rfl := pure_eq_ok.mp capped
      cases b with
      | false => cases found
      | true => exact Option.some.inj found ▸ Int.one_pos
    | text | broken | list | object =>
      rw [most] at capped
      cases capped
  unfold shown
  split
  · exact begins
  · have positive := limited _ ‹_›
    omega

def head (config : Config) (delegate : Delegate) (source : Source ν) (columns : Nat) :
    Except Failure String := do
  let header ←
    (if config.columnHeaders then headerRow config delegate source columns else .ok "")
  return "<table" ++ classAttribute config.tableClass ++ ">\n" ++ header

def placeholder (config : Config) (span : Nat) : String :=
  if config.emptyPlaceholder.isEmpty then ""
  else fullWidthRow span config.emptyPlaceholder.display

def filled (config : Config) (delegate : Delegate) (source : Source ν) (span : Nat)
    (opening : String) : Render (String × Option Value) := do
  let capReached ← body config delegate source
  let rows := String.join (← written)
  let ellipsis :=
    if capReached.isSome then fullWidthRow span config.ellipsisPlaceholder else ""
  return (opening ++ rows ++ ellipsis ++ "</table>\n", capReached)

theorem render_eq (config : Config) (delegate : Delegate) (source : Source ν) :
    render config delegate source =
      Step.of (source.columnCount none) >>= fun columns =>
        let span := columns.toNat + if config.rowHeaders then 1 else 0
        Step.of (head config delegate source columns.toNat) >>= fun opening =>
          Step.of (source.rowCount none) >>= fun rows =>
            if rows = 0 then pure (opening ++ placeholder config span ++ "</table>\n", none)
            else filled config delegate source span opening := by
  unfold render head
  refine congrArg (Step.of (source.columnCount none) >>= ·) (funext fun columns => ?_)
  cases config.columnHeaders with
  | false => rfl
  | true =>
    simp only [if_true]
    cases headerRow config delegate source columns.toNat <;> rfl

theorem answer_render {source : Source ν} {columns rows : Nat}
    (width : source.columnCount none = .ok columns) (height : source.rowCount none = .ok rows)
    (config : Config) (delegate : Delegate) :
    answer (fun _ => none) (render config delegate source) =
      head config delegate source columns >>= fun opening =>
        let span := columns + if config.rowHeaders then 1 else 0
        if rows = 0 then .ok (opening ++ placeholder config span ++ "</table>\n", none)
        else answer (fun _ => none) (filled config delegate source span opening) := by
  rw [render_eq, answer_of_bind, width]
  refine (answer_of_bind _ _ _).trans (congrArg (_ >>= ·) (funext fun opening => ?_))
  rw [answer_of_bind, height]
  cases rows with
  | zero => rfl
  | succ rows => rfl

def ellipsis (config : Config) (span : Nat) (leftOut : Bool) : String :=
  if leftOut then fullWidthRow span config.ellipsisPlaceholder else ""

theorem isSome_capReached (cap : Option Value) (rows : Nat) :
    (if ((settle (some (Budget.ofLimit cap)) rows).map Budget.truncated).getD false then cap
      else none).isSome = decide (shown cap rows < rows) := by
  rw [settle, Option.map_some, Option.map_some, Option.getD_some, charge, room_ofLimit]
  have fresh : (Budget.ofLimit cap).truncated = false := rfl
  rw [fresh, Bool.false_or]
  by_cases less : shown cap rows < rows
  · -- only a cap leaves rows out
    cases cap with
    | none => exact absurd less (Nat.lt_irrefl rows)
    | some cap => simp [less]
  · simp [less]

def closed (config : Config) (span : Nat) (opening : String) (cap : Option Value)
    (truncated : Bool) (rows : String) : String × Option Value :=
  let capReached := if truncated then cap else none
  (opening ++ rows ++ ellipsis config span capReached.isSome ++ "</table>\n", capReached)

theorem filled_comes (config : Config) (delegate : Delegate) (source : Source ν) (span : Nat)
    (opening : String) (refusal : Nat → Option Failure) :
    UnlessRefused refusal (answer refusal (filled config delegate source span opening))
      (config.rowCap >>= fun cap => rowByRow config source (rowMarkup config delegate source) true
        (some (Budget.ofLimit cap)) (closed config span opening cap)) := by
  simp only [filled, body, bind_assoc, pure_bind, answer_of_bind]
  refine .bind (fun cap => ?_) config.rowCap
  exact answer_walkAll (writesRows config delegate source) config true
    (some (Budget.ofLimit cap))
    (fun truncated => do return closed config span opening cap truncated (String.join (← written)))
    (closed config span opening cap) (fun _ _ => rfl) refusal

theorem answer_filled_eq (config : Config) (delegate : Delegate) (source : Source ν) (span : Nat)
    (opening : String) :
    answer (fun _ => none) (filled config delegate source span opening) =
      config.rowCap >>= fun cap => rowByRow config source (rowMarkup config delegate source) true
        (some (Budget.ofLimit cap)) (closed config span opening cap) :=
  (filled_comes config delegate source span opening _).1 fun _ => rfl

theorem answer_filled (tree : Tree) (config : Config) (delegate : Delegate) (span : Nat)
    (opening : String) {cap : Option Value} {deepest : Int} (capped : config.rowCap = .ok cap)
    (limited : ceiling config.maxDepth = .ok deepest)
    (begins : 0 < shown cap (tree.rowsUnder true none))
    (shallow : ∀ place ∈ (tree.preorder true none 0).take (shown cap (tree.rowsUnder true none)),
      place.depth < deepest) :
    Prod.fst <$> answer (fun _ => none) (filled config delegate tree.source span opening) =
      ((tree.preorder true none 0).take (shown cap (tree.rowsUnder true none))).mapM
          (fun place => rowMarkup config delegate tree.source place.asRow) >>= fun rows =>
        .ok (opening ++ String.join rows ++ ellipsis config span
          (shown cap (tree.rowsUnder true none) < tree.rowsUnder true none) ++ "</table>\n") := by
  have reached := isSome_capReached cap (tree.rowsUnder true none)
  rw [← room_ofLimit] at shallow begins
  obtain ⟨rows, ends⟩ := script_of_shallow tree begins shallow
  rw [room_ofLimit] at rows
  rw [answer_filled_eq, capped, ok_bind, rowByRow, limited, ok_bind]
  simp only [rows, ends, List.mapM_map, Function.comp_def, ← reached]
  cases ((tree.preorder true none 0).take (shown cap (tree.rowsUnder true none))).mapM
      (fun place => rowMarkup config delegate tree.source place.asRow) with
  | error failure => rfl
  | ok lines => rfl

theorem outcome_eq (config : Config) (delegate : Delegate) (source : Source ν)
    (refusal : Nat → Option Failure) :
    ((⟨.htmlTable, config, delegate⟩ : Serializer).rendering refusal source).outcome =
      Value.text <$> Prod.fst <$> answer refusal (render config delegate source) := by
  have rendered : (⟨.htmlTable, config, delegate⟩ : Serializer).render source =
      render config delegate source >>= fun given => pure (.text given.1, given.2) := rfl
  rw [Serializer.outcome_rendering, rendered, answer_map]
  cases answer refusal (render config delegate source) <;> rfl

theorem outcome_table (config : Config) (delegate : Delegate) (tree : Tree) :
    ((⟨.htmlTable, config, delegate⟩ : Serializer).serialize (some (.tree tree none))).outcome =
      Value.text <$> Prod.fst <$> answer (fun _ => none) (render config delegate tree.source) :=
  outcome_eq config delegate tree.source _

/-- A table of a tree shows the first rows in pre-order, as many as its cap leaves, each as it would
be shown under any other cap, and then says whether there are more. A tree without rows is shown as
the placeholder. -/
theorem table_eq_first_rows (tree : Tree) (config : Config) (delegate : Delegate) :
    let rows := tree.rowsUnder true none
    let columns := tree.width tree.items
    let span := columns + if config.rowHeaders then 1 else 0
    let table := ((⟨.htmlTable, config, delegate⟩ : Serializer).serialize
      (some (.tree tree none))).outcome
    (∀ cap deepest, 0 < rows → (∀ x, config.maxRows ≠ .float x) → config.rowCap = .ok cap →
      ceiling config.maxDepth = .ok deepest →
      (∀ place ∈ (tree.preorder true none 0).take (shown cap rows), place.depth < deepest) →
      table = (do
        let opening ← head config delegate tree.source columns
        let lines ← ((tree.preorder true none 0).take (shown cap rows)).mapM
          fun place => rowMarkup config delegate tree.source place.asRow
        return .text (opening ++ String.join lines ++ ellipsis config span (shown cap rows < rows)
          ++ "</table>\n"))) ∧
    (rows = 0 → table = (do
      let opening ← head config delegate tree.source columns
      return .text (opening ++ placeholder config span ++ "</table>\n"))) ∧
    ∀ (maxRows : Value) (row : Row TreeCell),
      rowMarkup { config with maxRows } delegate tree.source row =
        rowMarkup config delegate tree.source row := by
  intro rows columns span table
  have width : tree.source.columnCount none = .ok columns := rfl
  have height : tree.source.rowCount none = .ok tree.items.length := rfl
  have rendered := (outcome_table config delegate tree).trans (congrArg
    (Value.text <$> Prod.fst <$> ·) (answer_render width height config delegate))
  refine ⟨fun cap deepest begins whole capped limited shallow => ?_, fun empty => ?_,
    fun _ _ => rfl⟩
  · have items : tree.items.length ≠ 0 := by
      have nonempty := mt (rowsUnder_eq_zero tree).mpr (Nat.ne_of_gt begins)
      simpa using nonempty
    have filled := answer_filled tree config delegate span
    refine rendered.trans ?_
    cases head config delegate tree.source columns with
    | error failure => rfl
    | ok opening =>
      have begins := shown_pos capped whole begins
      rw [ok_bind, ok_bind, if_neg items, filled opening capped limited begins shallow]
      cases ((tree.preorder true none 0).take (shown cap rows)).mapM
        (fun place => rowMarkup config delegate tree.source place.asRow) <;> rfl
  · have items : tree.items.length = 0 := by rw [(rowsUnder_eq_zero tree).mp empty, List.length_nil]
    refine rendered.trans ?_
    cases head config delegate tree.source columns with
    | error failure => rfl
    | ok opening =>
      rw [ok_bind, ok_bind, if_pos items]
      rfl

theorem table_threeRows_under_cap :
    ((⟨.htmlTable, { maxRows := .int 2 }, .plain⟩ : Serializer).serialize
      (some (.tree threeRows none))).outcome = .ok (.text ("<table>\n<tr><th></th></tr>\n" ++
        "<tr><td>first</td></tr>\n<tr><td>&nbsp;&nbsp;second</td></tr>\n" ++
        "<tr><td colspan=1>...</td></tr>\n</table>\n")) := by
  have rows := (table_eq_first_rows threeRows { maxRows := .int 2 } .plain).1 (some (.int 2)) 256
    (by decide) (fun _ same => nomatch same) rfl rfl (by decide)
  exact rows.trans rfl

end Table

end TreeTable.Html

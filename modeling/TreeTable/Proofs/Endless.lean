import TreeTable.Proofs.Cells
import TreeTable.Proofs.Walk.Endless

namespace TreeTable

open Render Walk

variable {ν α : Type} {source : Source ν}

namespace Walk

theorem script_goesDown (endless : source.Endless) (deepest : Int) (budget : Option Budget) :
    GoesDown (script source none 0 true deepest budget) 0 (deepest + 1).toNat budget := by
  rw [script, Int.sub_zero]
  exact levelScript_goesDown endless _ 0 none budget

theorem room_lt_of_ends (endless : source.Endless) {deepest : Int} {budget left : Option Budget}
    (ends : (script source none 0 true deepest budget).ends = .ok left) :
    room budget (deepest + 1).toNat < (deepest + 1).toNat := by
  by_contra goesOn
  rw [(script_goesDown endless deepest budget).ends, if_neg goesOn] at ends
  cases ends

theorem number_of_mem_rows (endless : source.Endless) {deepest : Int} {budget : Option Budget}
    {row : Row ν} (among : row ∈ (script source none 0 true deepest budget).rows) :
    row.number = 0 := by
  have spots := (script_goesDown endless deepest budget).rows
  have found : row.spot ∈ firstRows 0 (room budget (deepest + 1).toNat) :=
    spots ▸ List.mem_map_of_mem among
  obtain ⟨below, -, same⟩ := List.mem_map.mp found
  exact (congrArg Prod.fst same).symm

theorem room_fresh (cap : Int) (levels : Nat) :
    room (some { cap := some cap }) levels = min levels cap.toNat := by
  simp [room]

theorem room_of_beyond {cap : Option Int} {deepest : Int} (beyond : ∀ limit ∈ cap, deepest < limit)
    {budget : Option Budget} (fresh : budget ∈ [none, some { cap }]) :
    room budget (deepest + 1).toNat = (deepest + 1).toNat := by
  rcases List.mem_cons.mp fresh with rfl | fresh
  · rfl
  obtain rfl := List.mem_singleton.mp fresh
  cases cap with
  | none => rfl
  | some limit =>
    have past := beyond limit rfl
    rw [room_fresh]
    omega

theorem settle_of_within {cap deepest : Int} (positive : 1 ≤ cap) (within : cap ≤ deepest) :
    room (some { cap := some cap }) (deepest + 1).toNat = cap.toNat ∧
      cap.toNat < (deepest + 1).toNat ∧
      settle (some { cap := some cap }) (deepest + 1).toNat =
        some { cap := some cap, count := cap, truncated := true } := by
  have fits : room (some { cap := some cap }) (deepest + 1).toNat = cap.toNat := by
    rw [room_fresh]
    omega
  have less : cap.toNat < (deepest + 1).toNat := by omega
  refine ⟨fits, less, ?_⟩
  rw [settle, Option.map_some, fits, charge, decide_eq_true less, Int.toNat_of_nonneg (by omega),
    Int.zero_add, Bool.or_true]

def begun (events : List (Event ν)) : List (Nat × Int) :=
  (events.filterMap Event.row?).map Row.spot

theorem begun_script (endless : source.Endless) (deepest : Int) (budget : Option Budget) :
    begun (script source none 0 true deepest budget).events =
      firstRows 0 (room budget (deepest + 1).toNat) := by
  rw [begun, Script.rows_events]
  exact (script_goesDown endless deepest budget).rows

variable {σ : Type}

theorem walk_tooDeep (endless : source.Endless) {deepest : Int} {budget : Option Budget}
    (all : room budget (deepest + 1).toNat = (deepest + 1).toNat) (see : σ → Event ν → σ)
    (kept : σ) :
    ∃ after, walk source (watching see) none 0 true deepest ⟨budget, kept⟩ =
        .error .tooDeep after ∧
      after.kept = (script source none 0 true deepest budget).events.foldl see kept := by
  have ends := (script_goesDown endless deepest budget).ends
  rw [all, if_neg (Nat.lt_irrefl _)] at ends
  exact walk_of_ends_error ends see kept

theorem walk_cutOff (endless : source.Endless) {deepest : Int} {budget : Option Budget}
    (less : room budget (deepest + 1).toNat < (deepest + 1).toNat) (see : σ → Event ν → σ)
    (kept : σ) :
    walk source (watching see) none 0 true deepest ⟨budget, kept⟩ =
      .ok (leftOut (settle budget (deepest + 1).toNat))
        ⟨settle budget (deepest + 1).toNat,
          (script source none 0 true deepest budget).events.foldl see kept⟩ := by
  have ends := (script_goesDown endless deepest budget).ends
  rw [if_pos less] at ends
  exact walk_of_ends_ok ends see kept

end Walk

namespace Render

variable {config : Config} {budget : Option Budget} {deepest : Int}

theorem actByAct_returns (endless : source.Endless) {pieces : Act ν → Except Failure (List String)}
    {final : Bool → List String → Except Failure α} {given : α}
    (returns : actByAct config source pieces true budget final = .ok given) :
    ∃ deepest, ceiling config.maxDepth = .ok deepest ∧
      room budget (deepest + 1).toNat < (deepest + 1).toNat := by
  obtain ⟨deepest, limited, returns⟩ := bind_eq_ok.mp returns
  obtain ⟨added, -, returns⟩ := bind_eq_ok.mp returns
  obtain ⟨left, ends, -⟩ := bind_eq_ok.mp returns
  exact ⟨deepest, limited, room_lt_of_ends endless ends⟩

theorem rowByRow_returns (endless : source.Endless) {line : Row ν → Except Failure String}
    {final : Bool → String → α} {given : α}
    (returns : rowByRow config source line true budget final = .ok given) :
    ∃ deepest, ceiling config.maxDepth = .ok deepest ∧
      room budget (deepest + 1).toNat < (deepest + 1).toNat := by
  obtain ⟨deepest, limited, returns⟩ := bind_eq_ok.mp returns
  obtain ⟨lines, -, returns⟩ := bind_eq_ok.mp returns
  obtain ⟨left, ends, -⟩ := bind_eq_ok.mp returns
  exact ⟨deepest, limited, room_lt_of_ends endless ends⟩

theorem actByAct_tooDeep (endless : source.Endless)
    (limited : ceiling config.maxDepth = .ok deepest)
    (all : room budget (deepest + 1).toNat = (deepest + 1).toNat)
    {pieces : Act ν → Except Failure (List String)}
    (answers : ∀ act : Act ν, (∀ row ∈ act.row?, row.number = 0) →
      Answers (fun _ => True) (pieces act))
    (final : Bool → List String → Except Failure α) :
    actByAct config source pieces true budget final = .error .tooDeep := by
  have ends := (script_goesDown endless deepest budget).ends
  rw [all, if_neg (Nat.lt_irrefl _)] at ends
  have first : ∀ act ∈ (script source none 0 true deepest budget).acts, ∀ row ∈ act.row?,
      row.number = 0 := fun act among row isRow =>
    number_of_mem_rows endless (List.mem_filterMap.mpr ⟨act, among, isRow⟩)
  obtain ⟨added, told, -⟩ := Answers.mapM fun act among => answers act (first act among)
  rw [actByAct, limited, ok_bind]
  dsimp only
  rw [told, ok_bind, ends]
  rfl

theorem rowByRow_eq (endless : source.Endless) (limited : ceiling config.maxDepth = .ok deepest)
    (budget : Option Budget) {line : Row ν → Except Failure String}
    (answers : ∀ row : Row ν, row.number = 0 → Answers (fun _ => True) (line row))
    (final : Bool → String → α) :
    ∃ (shown : List (Row ν)) (lines : List String),
      shown.map Row.spot = firstRows 0 (room budget (deepest + 1).toNat) ∧
      shown.mapM line = .ok lines ∧
      rowByRow config source line true budget final =
        if room budget (deepest + 1).toNat < (deepest + 1).toNat then
          .ok (final (leftOut (settle budget (deepest + 1).toNat)) (String.join lines))
        else .error .tooDeep := by
  obtain ⟨rows, ends⟩ := script_goesDown endless deepest budget
  obtain ⟨lines, told, -⟩ := Answers.mapM fun row among =>
    answers row (number_of_mem_rows endless among)
  refine ⟨_, lines, rows, told, ?_⟩
  rw [rowByRow, limited, ok_bind]
  dsimp only
  rw [told, ok_bind, ends]
  split <;> rfl

end Render

namespace Csv

theorem outcome_ne_ok (endless : source.Endless) (config : Config) (delegate : Delegate)
    (refusal : Nat → Option Failure) (text : Value) :
    ((⟨.csvTree, config, delegate⟩ : Serializer).rendering refusal source).outcome ≠ .ok text := by
  intro returns
  have returns := (rendering_comes config delegate source true refusal).2 text returns
  obtain ⟨writer, made, returns⟩ := bind_eq_ok.mp returns
  obtain ⟨header, -, returns⟩ := bind_eq_ok.mp returns
  rw [(Writer.of_ofConfig made).2] at returns
  obtain ⟨deepest, -, less⟩ := rowByRow_returns endless returns
  exact Nat.lt_irrefl _ less

theorem outcome_tooDeep (endless : source.Endless) {config : Config} {delegate : Delegate}
    (suits : config.SuitsCells) (suits' : delegate.SuitsCells) (headers : source.AnswersHeaders)
    (answers : ∀ parent, source.AnswersAt parent 0) :
    ((⟨.csvTree, config, delegate⟩ : Serializer).rendering (fun _ => none) source).outcome =
      .error .tooDeep := by
  have comes := (rendering_comes config delegate source true fun _ => none).1 fun _ => rfl
  refine comes.trans ?_
  obtain ⟨writer, made, writes⟩ := Writer.ofConfig_answers suits.toSuited delegate true
  obtain ⟨columns, width⟩ := endless.columns none
  obtain ⟨header, told, -⟩ := Writer.head_answers writes suits.toSuited suits'.suited headers width
  obtain ⟨same, nested⟩ := Writer.of_ofConfig made
  obtain ⟨deepest, whole⟩ := suits.maxDepth
  have limited : ceiling writer.config.maxDepth = .ok deepest := by
    rw [same, whole]
    rfl
  rw [output, made, ok_bind, told, ok_bind, nested]
  obtain ⟨_, _, -, -, lines⟩ := rowByRow_eq endless limited none
    (fun row first => Writer.rowLine_answers writes suits suits' headers
      (first ▸ answers none) (first ▸ answers row.parent)
      (endless.width row.parent))
    fun _ lines => Value.text (header ++ lines)
  exact lines.trans (if_neg (Nat.lt_irrefl _))

end Csv

namespace Html

theorem Outline.outcome_ne_ok (endless : source.Endless) (config : Config) (delegate : Delegate)
    (refusal : Nat → Option Failure) (text : Value) :
    ((⟨.htmlList, config, delegate⟩ : Serializer).rendering refusal source).outcome ≠
      .ok text := by
  intro returns
  have returns := (outcome_comes config delegate source refusal).2 text returns
  obtain ⟨deepest, -, less⟩ := actByAct_returns endless returns
  exact Nat.lt_irrefl _ less

theorem Outline.outcome_tooDeep (endless : source.Endless) {config : Config} {delegate : Delegate}
    (suits : config.SuitsCells) (suits' : delegate.SuitsCells)
    (answers : ∀ parent, source.AnswersAt parent 0) :
    ((⟨.htmlList, config, delegate⟩ : Serializer).rendering (fun _ => none) source).outcome =
      .error .tooDeep := by
  obtain ⟨deepest, whole⟩ := suits.maxDepth
  have limited : ceiling config.maxDepth = .ok deepest := by
    rw [whole]
    rfl
  refine ((outcome_comes config delegate source fun _ => none).1 fun _ => rfl).trans ?_
  refine actByAct_tooDeep endless limited rfl (fun act first => ?_) _
  exact pieces_answers suits' fun row isRow => first row isRow ▸ answers row.parent

namespace Table

variable {config : Config} {delegate : Delegate}

/-- A table that shows the first rows of so many levels and says that there are more. -/
def CutOff (config : Config) (delegate : Delegate) (source : Source ν) (levels : Nat)
    (text : String) : Prop :=
  ∃ (columns : Nat) (opening : String) (shown : List (Row ν)) (lines : List String),
    source.columnCount none = .ok columns ∧
    head config delegate source columns = .ok opening ∧
    shown.map Row.spot = firstRows 0 levels ∧
    shown.mapM (rowMarkup config delegate source) = .ok lines ∧
    text = opening ++ String.join lines ++
      fullWidthRow (columns + if config.rowHeaders then 1 else 0) config.ellipsisPlaceholder ++
        "</table>\n"

theorem capped_of_outcome (endless : source.Endless) {refusal : Nat → Option Failure} {text : Value}
    (returns : ((⟨.htmlTable, config, delegate⟩ : Serializer).rendering refusal source).outcome =
      .ok text) :
    ∃ cap limit deepest, config.rowCap = .ok (some cap) ∧ Budget.capOf cap = some limit ∧
      ceiling config.maxDepth = .ok deepest ∧ limit ≤ deepest := by
  rw [outcome_eq] at returns
  obtain ⟨_, returns, -⟩ := map_eq_ok.mp returns
  obtain ⟨given, returns, -⟩ := map_eq_ok.mp returns
  rw [render_eq, answer_of_bind] at returns
  obtain ⟨columns, -, returns⟩ := bind_eq_ok.mp returns
  dsimp only at returns
  rw [answer_of_bind] at returns
  obtain ⟨opening, -, returns⟩ := bind_eq_ok.mp returns
  obtain ⟨more, height⟩ := endless.rows none
  rw [answer_of_bind, height, ok_bind, if_neg (by omega)] at returns
  have returns := (filled_comes config delegate source _ opening refusal).2 given returns
  obtain ⟨cap, capped, returns⟩ := bind_eq_ok.mp returns
  obtain ⟨deepest, limited, less⟩ := rowByRow_returns endless returns
  rw [room_ofLimit, shown] at less
  cases limit : cap.bind Budget.capOf with
  | none =>
    rw [limit] at less
    exact absurd less (Nat.lt_irrefl _)
  | some limit' =>
    obtain ⟨cap, rfl, counted⟩ := Option.bind_eq_some_iff.mp limit
    rw [limit] at less
    dsimp only at less
    exact ⟨cap, limit', deepest, capped, counted, limited, by omega⟩

theorem rowCap_of_suited (suited : config.Suited) : config.rowCap = .ok none ∨
    ∃ limit, 1 ≤ limit ∧ config.rowCap = .ok (some (.int limit)) := by
  unfold Config.rowCap
  rcases suited.maxRows with unlimited | ⟨most, whole⟩
  · rw [unlimited]
    exact .inl rfl
  · rw [whole]
    rcases Int.lt_or_le 0 most with positive | below
    · refine .inr ⟨most, positive, ?_⟩
      simp [Value.isPositive, positive, ok_bind, pure, Except.pure]
    · refine .inl ?_
      simp [Value.isPositive, Int.not_lt.mpr below, ok_bind, pure, Except.pure]

theorem outcome_of_rowCap (endless : source.Endless) (suits : config.SuitsCells)
    (suits' : delegate.SuitsCells) (headers : source.AnswersHeaders)
    (answers : ∀ parent, source.AnswersAt parent 0) {deepest : Int}
    (limited : ceiling config.maxDepth = .ok deepest) {cap : Option Value}
    (capped : config.rowCap = .ok cap) :
    ∃ (columns : Nat) (opening : String) (shown : List (Row ν)) (lines : List String),
      source.columnCount none = .ok columns ∧
      head config delegate source columns = .ok opening ∧
      shown.map Row.spot = firstRows 0 (room (some (Budget.ofLimit cap)) (deepest + 1).toNat) ∧
      shown.mapM (rowMarkup config delegate source) = .ok lines ∧
      ((⟨.htmlTable, config, delegate⟩ : Serializer).rendering (fun _ => none) source).outcome =
        if room (some (Budget.ofLimit cap)) (deepest + 1).toNat < (deepest + 1).toNat then
          .ok (.text (closed config (columns + if config.rowHeaders then 1 else 0) opening cap
            (leftOut (settle (some (Budget.ofLimit cap)) (deepest + 1).toNat))
            (String.join lines)).1)
        else .error .tooDeep := by
  obtain ⟨columns, width⟩ := endless.columns none
  obtain ⟨more, height⟩ := endless.rows none
  obtain ⟨opening, begins, -⟩ := head_answers headers suits'.suited suits.toSuited columns
  obtain ⟨shown, lines, spots, told, whole⟩ := rowByRow_eq endless limited
    (some (Budget.ofLimit cap))
    (fun row first => rowMarkup_answers suits suits' headers (first ▸ answers none)
      (first ▸ answers row.parent) (endless.width row.parent))
    (closed config (columns + if config.rowHeaders then 1 else 0) opening cap)
  refine ⟨columns, opening, shown, lines, width, begins, spots, told, ?_⟩
  rw [outcome_eq, answer_render width height, begins, ok_bind]
  dsimp only
  rw [if_neg (Nat.succ_ne_zero more), answer_filled_eq, capped, ok_bind, whole]
  split <;> rfl

theorem outcome_cutOff (endless : source.Endless) (suits : config.SuitsCells)
    (suits' : delegate.SuitsCells) (headers : source.AnswersHeaders)
    (answers : ∀ parent, source.AnswersAt parent 0) {deepest : Int}
    (limited : ceiling config.maxDepth = .ok deepest) {limit : Int} (positive : 1 ≤ limit)
    (capped : config.rowCap = .ok (some (.int limit))) (within : limit ≤ deepest) :
    ∃ text, CutOff config delegate source limit.toNat text ∧
      ((⟨.htmlTable, config, delegate⟩ : Serializer).rendering (fun _ => none) source).outcome =
        .ok (.text text) := by
  obtain ⟨columns, opening, shown, lines, width, begins, spots, told, outcome⟩ :=
    outcome_of_rowCap endless suits suits' headers answers limited capped
  have fresh : Budget.ofLimit (some (.int limit)) = { cap := some limit } := rfl
  obtain ⟨fits, less, settled⟩ := settle_of_within positive within
  rw [fresh, fits] at spots
  rw [fresh, fits, if_pos less, settled] at outcome
  exact ⟨_, ⟨columns, opening, shown, lines, width, begins, spots, told, rfl⟩, outcome⟩

theorem outcome_tooDeep (endless : source.Endless) (suits : config.SuitsCells)
    (suits' : delegate.SuitsCells) (headers : source.AnswersHeaders)
    (answers : ∀ parent, source.AnswersAt parent 0) {deepest : Int}
    (limited : ceiling config.maxDepth = .ok deepest)
    (beyond : ∀ limit, config.rowCap = .ok (some (.int limit)) → deepest < limit) :
    ((⟨.htmlTable, config, delegate⟩ : Serializer).rendering (fun _ => none) source).outcome =
      .error .tooDeep := by
  have all : ∃ cap, config.rowCap = .ok cap ∧
      room (some (Budget.ofLimit cap)) (deepest + 1).toNat = (deepest + 1).toNat := by
    obtain unlimited | ⟨limit, -, capped⟩ := rowCap_of_suited suits.toSuited
    · exact ⟨none, unlimited, rfl⟩
    · have past : ∀ limit' ∈ some limit, deepest < limit' := by
        rintro _ ⟨⟩
        exact beyond limit capped
      exact ⟨_, capped, room_of_beyond past (List.mem_cons_of_mem _ List.mem_cons_self)⟩
  obtain ⟨cap, capped, all⟩ := all
  obtain ⟨_, _, _, _, -, -, -, -, outcome⟩ :=
    outcome_of_rowCap endless suits suits' headers answers limited capped
  rw [outcome, all, if_neg (Nat.lt_irrefl _)]

end Table

end Html

/-- A walk of a source without an end is ended by its budget if that has a cap within the deepest
level, and fails below that level otherwise; either way it has gone straight down. So what shows all
rows always fails, and a markup table is shown, cut off, exactly if its row cap is set and within
the deepest level. -/
theorem Serializer.outcome_of_endless (endless : source.Endless) :
    (∀ deepest : Int,
      (∀ cap : Option Int, (∀ limit ∈ cap, deepest < limit) → ∀ budget ∈ [none, some { cap }],
        ∃ events, begun events = firstRows 0 (deepest + 1).toNat ∧
          ∀ {σ : Type} (see : σ → Event ν → σ) (kept : σ), ∃ after,
            walk source (watching see) none 0 true deepest ⟨budget, kept⟩ =
              .error .tooDeep after ∧ after.kept = events.foldl see kept) ∧
      ∀ cap : Int, 1 ≤ cap → cap ≤ deepest →
        ∃ events, begun events = firstRows 0 cap.toNat ∧
          ∀ {σ : Type} (see : σ → Event ν → σ) (kept : σ),
            walk source (watching see) none 0 true deepest ⟨some { cap := some cap }, kept⟩ =
              .ok true ⟨some { cap := some cap, count := cap, truncated := true },
                events.foldl see kept⟩) ∧
    ∀ (config : Config) (delegate : Delegate),
      let outcome (format : Format) (refusal : Nat → Option Failure) :=
        ((⟨format, config, delegate⟩ : Serializer).rendering refusal source).outcome
      (∀ refusal text, outcome .csvTree refusal ≠ .ok text ∧ outcome .htmlList refusal ≠ .ok text ∧
        (outcome .htmlTable refusal = .ok text → ∃ cap limit deepest,
          config.rowCap = .ok (some cap) ∧ Budget.capOf cap = some limit ∧
          ceiling config.maxDepth = .ok deepest ∧ limit ≤ deepest)) ∧
      (config.SuitsCells → delegate.SuitsCells → source.AnswersHeaders →
        (∀ parent, source.AnswersAt parent 0) → ∃ deepest, config.maxDepth = .int deepest ∧
          outcome .csvTree (fun _ => none) = .error .tooDeep ∧
          outcome .htmlList (fun _ => none) = .error .tooDeep ∧
          (∀ limit, config.rowCap = .ok (some (.int limit)) → limit ≤ deepest →
            ∃ text, Html.Table.CutOff config delegate source limit.toNat text ∧
              outcome .htmlTable (fun _ => none) = .ok (.text text)) ∧
          ((∀ limit, config.rowCap = .ok (some (.int limit)) → deepest < limit) →
            outcome .htmlTable (fun _ => none) = .error .tooDeep)) := by
  refine ⟨fun deepest => ⟨fun cap beyond budget fresh => ?_, fun cap positive within => ?_⟩,
    fun config delegate => ⟨fun refusal text => ⟨?_, ?_, ?_⟩,
      fun suits suits' headers answers => ?_⟩⟩
  · have all := room_of_beyond beyond fresh
    refine ⟨_, ?_, walk_tooDeep endless all⟩
    rw [begun_script endless, all]
  · obtain ⟨fits, less, settled⟩ := settle_of_within positive within
    refine ⟨(script source none 0 true deepest (some { cap := some cap })).events, ?_,
      fun see kept => ?_⟩
    · rw [begun_script endless, fits]
    · rw [walk_cutOff endless (fits ▸ less) see kept, settled]
      rfl
  · exact Csv.outcome_ne_ok endless config delegate refusal text
  · exact Html.Outline.outcome_ne_ok endless config delegate refusal text
  · exact Html.Table.capped_of_outcome endless
  · obtain ⟨deepest, whole⟩ := suits.maxDepth
    have limited : ceiling config.maxDepth = .ok deepest := by
      rw [whole]
      rfl
    refine ⟨deepest, whole, Csv.outcome_tooDeep endless suits suits' headers answers,
      Html.Outline.outcome_tooDeep endless suits suits' answers, fun limit capped within => ?_,
      Html.Table.outcome_tooDeep endless suits suits' headers answers limited⟩
    have positive : 1 ≤ limit := by
      obtain unlimited | ⟨limit', positive, capped'⟩ :=
        Html.Table.rowCap_of_suited suits.toSuited
      · cases unlimited.symm.trans capped
      · cases capped'.symm.trans capped
        exact positive
    exact Html.Table.outcome_cutOff endless suits suits' headers answers limited positive capped
      within

theorem Tree.endless {tree : Tree} (nonempty : tree.items ≠ []) :
    (tree.faultySource { cyclic := true }).Endless where
  rows parent := by
    obtain ⟨first, rest, items⟩ := List.exists_cons_of_ne_nil nonempty
    refine ⟨rest.length, ?_⟩
    cases parent <;> simp [faultySource, Tree.level, items]
  columns parent := by
    refine ⟨tree.width (tree.level true parent), ?_⟩
    cases parent <;> rfl
  below parent := by
    obtain ⟨first, rest, items⟩ := List.exists_cons_of_ne_nil nonempty
    refine ⟨⟨first, .int 0⟩, ?_⟩
    cases parent <;> simp [faultySource, Tree.level, items, pick?, Value.asIndex] <;> rfl

def twoCircling : Tree where
  headers := #["N"]
  items := [⟨#[.text "a"], [], []⟩, ⟨#[.text "b"], [], []⟩]

theorem outcome_twoCircling :
    let source := twoCircling.faultySource { cyclic := true }
    let config (most : Int) : Config := { maxRows := .int most, maxDepth := .int 2 }
    let outcome (most : Int) :=
      ((⟨.htmlTable, config most, .plain⟩ : Serializer).rendering (fun _ => none) source).outcome
    (∃ text, Html.Table.CutOff (config 2) .plain source 2 text ∧ outcome 2 = .ok (.text text)) ∧
      outcome 3 = .error .tooDeep := by
  intro source config outcome
  have nonempty : twoCircling.items ≠ [] := by simp [twoCircling]
  have endless : source.Endless := Tree.endless nonempty
  have headers : source.AnswersHeaders := Tree.answersHeaders rfl rfl
  have answers : ∀ parent, source.AnswersAt parent 0 := by
    intro parent
    refine Tree.answersAt rfl rfl ?_
    cases parent with
    | none => decide
    | some parent => exact Nat.succ_pos 1
  have suits : ∀ most, (config most).SuitsCells := fun most =>
    { corner := ⟨_, rfl⟩, maxRows := .inr ⟨_, rfl⟩, maxDepth := ⟨_, rfl⟩, separator := nofun,
      recordSeparator := ⟨_, rfl⟩, fieldQuote := nofun, escapeChar := nofun,
      replacementChar := nofun, htmlPrefixRole := nofun, linkRole := nofun,
      linkClassRole := nofun, rowClassRole := nofun, cellClassRole := nofun }
  have ends := (Serializer.outcome_of_endless endless).2
  obtain ⟨deepest, whole, -, -, cutOff, -⟩ :=
    (ends (config 2) .plain).2 (suits 2) trivial headers answers
  obtain ⟨deepest', whole', -, -, -, tooDeep⟩ :=
    (ends (config 3) .plain).2 (suits 3) trivial headers answers
  obtain rfl := Value.int.inj whole
  obtain rfl := Value.int.inj whole'
  refine ⟨cutOff 2 rfl (by decide), tooDeep fun limit capped => ?_⟩
  cases capped
  decide

example :
    ((⟨.htmlTable, { maxRows := .int 2, maxDepth := .int 2 }, .plain⟩ : Serializer).rendering
      (fun _ => none) (twoCircling.faultySource { cyclic := true })).outcome =
        .ok (.text ("<table>\n<tr><th>N</th></tr>\n<tr><td>a</td></tr>\n" ++
          "<tr><td>&nbsp;&nbsp;a</td></tr>\n<tr><td colspan=1>...</td></tr>\n</table>\n")) := rfl

end TreeTable

import TreeTable.Proofs.Html.Table
import TreeTable.Proofs.RowRoles

/-!
Row headers with markup of their own. Two renders of one table, of which only one finds such markup,
go on alike: they ask the same, fail alike, and one text is the other with the markup put in.
-/

namespace TreeTable

variable {ν α β : Type}

structure Grown (more : Nat) (text text' : String) : Prop where
  length : text'.length = text.length + more
  same : more = 0 → text' = text

namespace Grown

variable {more more' : Nat} {text text' other other' : String}

theorem refl (text : String) : Grown 0 text text := ⟨rfl, fun _ => rfl⟩

theorem append (grown : Grown more text text') (grown' : Grown more' other other') :
    Grown (more + more') (text ++ other) (text' ++ other') where
  length := by
    have := grown.length
    have := grown'.length
    simp only [String.length_append]
    omega
  same none := by rw [grown.same (by omega), grown'.same (by omega)]

theorem insert (front inserted back : String) :
    Grown inserted.length (front ++ "" ++ back) (front ++ inserted ++ back) where
  length := by
    simp only [String.length_append, String.length_empty]
    omega
  same none := by rw [String.length_eq_zero_iff.mp none]

theorem eq_iff (grown : Grown more text text') : text' = text ↔ more = 0 := by
  refine ⟨fun same => ?_, grown.same⟩
  have := grown.length
  rw [same] at this
  omega

end Grown

namespace Render

structure Ahead (more : Nat) (draft draft' : Draft) : Prop where
  asked : draft'.asked = draft.asked
  refusal : draft'.refusal = draft.refusal
  text : Grown more draft.sheet.text draft'.sheet.text

/-- Steps of two renders that go on alike, but for one of them writing so much more. -/
def Outgrows (more : Nat) (steps steps' : Render α) : Prop :=
  ∀ before draft draft', Ahead before draft draft' →
    match steps draft, steps' draft' with
    | .ok answer after, .ok answer' after' =>
      answer' = answer ∧ Ahead (before + more) after after'
    | .error failure _, .error failure' _ => failure' = failure
    | _, _ => False

namespace Outgrows

variable {more more' : Nat} {first first' : Render α} {next next' : α → Render β}

theorem both (outgrows : Outgrows more first first') {before : Nat} {draft draft' : Draft}
    (ahead : Ahead before draft draft') :
    (∃ failure after after', first draft = .error failure after ∧
      first' draft' = .error failure after') ∨
    ∃ answer after after', first draft = .ok answer after ∧ first' draft' = .ok answer after' ∧
      Ahead (before + more) after after' := by
  have goes := outgrows before draft draft' ahead
  cases ran : first draft with
  | error failure after =>
    cases ran' : first' draft' with
    | error failure' after' =>
      rw [ran, ran'] at goes
      cases goes
      exact .inl ⟨failure, after, after', rfl, rfl⟩
    | ok answer' after' =>
      rw [ran, ran'] at goes
      exact goes.elim
  | ok answer after =>
    cases ran' : first' draft' with
    | error failure' after' =>
      rw [ran, ran'] at goes
      exact goes.elim
    | ok answer' after' =>
      rw [ran, ran'] at goes
      obtain ⟨rfl, further⟩ := goes
      exact .inr ⟨answer', after, after', rfl, rfl, further⟩

theorem bind (outgrows : Outgrows more first first')
    (goes : ∀ answer, Outgrows more' (next answer) (next' answer)) :
    Outgrows (more + more') (first >>= next) (first' >>= next') := by
  intro before draft draft' ahead
  simp only [Bind.bind, EStateM.bind]
  obtain ⟨failure, after, after', fails, fails'⟩ | ⟨answer, between, between', answers, answers',
    further⟩ := outgrows.both ahead
  · rw [fails, fails']
  · rw [answers, answers', ← Nat.add_assoc]
    exact goes answer (before + more) between between' further

theorem andThen (outgrows : Outgrows 0 first first')
    (goes : ∀ answer, Outgrows more (next answer) (next' answer)) :
    Outgrows more (first >>= next) (first' >>= next') :=
  Nat.zero_add more ▸ outgrows.bind goes

theorem pure (answer : α) : Outgrows 0 (Pure.pure answer) (Pure.pure answer) :=
  fun _ _ _ ahead => ⟨rfl, ahead⟩

theorem of (outcome : Except Failure α) : Outgrows 0 (Step.of outcome) (Step.of outcome) := by
  cases outcome with
  | error failure => exact fun _ _ _ _ => rfl
  | ok answer => exact pure answer

theorem ask (delegate : Delegate) (source : Source ν) (parent : Option ν) (row column : Value) :
    Outgrows 0 (Render.ask delegate source parent row column)
      (Render.ask delegate source parent row column) := by
  intro before draft draft' ahead
  unfold Render.ask
  rw [Step.get_bind, Step.get_bind]
  dsimp only
  rw [Step.modify_bind, Step.modify_bind, ahead.refusal, ahead.asked]
  cases draft.refusal draft.asked with
  | some failure => rfl
  | none => exact of _ before _ _ ⟨rfl, rfl, ahead.text⟩

theorem write {text text' : String} (grown : Grown more text text') :
    Outgrows more (Render.write text) (Render.write text') := by
  refine fun before draft draft' ahead => ⟨rfl, ahead.asked, ahead.refusal, ?_⟩
  have whole := ahead.text.append grown
  simpa [Draft.sheet, Sheet.text] using whole

end Outgrows

end Render

namespace Html

open Render Walk

theorem outgrows_decorated (config : Config) (delegate : Delegate) (source : Source ν)
    (parent : Option ν) (row column : Value) :
    Outgrows 0 (decorated config delegate source parent row column)
      (decorated config delegate source parent row column) := by
  unfold decorated
  refine (Outgrows.of _).andThen fun node => (Outgrows.ask _ _ _ _ _).andThen fun text =>
    (Outgrows.of _).andThen fun address => ?_
  cases address.isEmpty with
  | true => exact (Outgrows.of _).andThen fun markup => .pure _
  | false =>
    exact (Outgrows.of _).andThen fun className => (Outgrows.of _).andThen fun markup => .pure _

def Unmarked (source source' : Source ν) (role : Option Value) : Prop :=
  ∀ row : Nat,
    (∃ failure, headerRole source .row row role = .error failure ∧
      headerRole source' .row row role = .error failure) ∨
    headerRole source .row row role = .ok "" ∧
      ∃ markup, headerRole source' .row row role = .ok markup

def markupLength (source : Source ν) (role : Option Value) (row : Nat) : Nat :=
  match headerRole source .row row role with
  | .ok markup => markup.length
  | .error _ => 0

def markupLengths (source : Source ν) (role : Option Value) : List (Row ν) → Nat
  | [] => 0
  | row :: rest => markupLength source role row.number + markupLengths source role rest

theorem markupLengths_eq_zero {source : Source ν} {role : Option Value} {rows : List (Row ν)} :
    markupLengths source role rows = 0 ↔
      ∀ row ∈ rows, ∀ markup, headerRole source .row row.number role = .ok markup →
        markup = "" := by
  have one : ∀ row, markupLength source role row = 0 ↔
      ∀ markup, headerRole source .row row role = .ok markup → markup = "" := by
    intro row
    unfold markupLength
    cases headerRole source .row row role with
    | error failure => simp
    | ok markup => simp
  induction rows with
  | nil => exact ⟨fun _ => nofun, fun _ => rfl⟩
  | cons row rest ih =>
    rw [markupLengths, Nat.add_eq_zero_iff, one, List.forall_mem_cons]
    exact and_congr_right fun _ => ih

namespace Table

variable {config : Config} {delegate : Delegate} {source : Source ν}
  {roles : Value → Value → Except Failure Value}

theorem outgrows_rowHeader
    (unmarked : Unmarked source (source.withRowRoles roles) config.htmlPrefixRole) (row : Nat) :
    Outgrows (markupLength (source.withRowRoles roles) config.htmlPrefixRole row)
      (Step.of (rowHeader config delegate source row) >>= write)
      (Step.of (rowHeader config delegate (source.withRowRoles roles) row) >>= write) := by
  unfold rowHeader markupLength
  obtain ⟨failure, fails, fails'⟩ | ⟨nothing, markup, marked⟩ := unmarked row
  · rw [fails, fails']
    exact fun _ _ _ _ => rfl
  · rw [nothing, marked, ok_bind, ok_bind, Delegate.headerText_withRowRoles]
    cases delegate.headerText source .row (.int row) with
    | error failure => exact fun _ _ _ _ => rfl
    | ok header =>
      rw [ok_bind, ok_bind]
      cases header.asText with
      | error failure => exact fun _ _ _ _ => rfl
      | ok text =>
        have put := Grown.insert "<th>" markup (text ++ "</th>")
        rw [← String.append_assoc, ← String.append_assoc] at put
        exact .write put

theorem outgrows_cells (row : Row ν) (column left : Nat) :
    Outgrows 0 (cells (visit config delegate source) row.parent row.number row.depth column left)
      (cells (visit config delegate (source.withRowRoles roles)) row.parent row.number row.depth
        column left) := by
  induction left generalizing column with
  | zero => exact .pure ()
  | succ left ih =>
    have first : Outgrows 0
        (visit config delegate source (.cell row.parent row.number column row.depth))
        (visit config delegate (source.withRowRoles roles)
          (.cell row.parent row.number column row.depth)) := by
      unfold visit
      rw [decorated_withRowRoles]
      exact (Outgrows.of _).andThen fun node => (Outgrows.of _).andThen fun className =>
        (outgrows_decorated _ _ _ _ _ _).andThen fun text => .write (.refl _)
    rw [cells, cells]
    exact first.andThen fun _ => ih (column + 1)

theorem outgrows_act (headed : config.rowHeaders = true)
    (unmarked : Unmarked source (source.withRowRoles roles) config.htmlPrefixRole) (act : Act ν) :
    Outgrows (markupLengths (source.withRowRoles roles) config.htmlPrefixRole act.row?.toList)
      (act.perform (visit config delegate source))
      (act.perform (visit config delegate (source.withRowRoles roles))) := by
  cases act with
  | enter | close | leave => exact .pure ()
  | row row columns =>
    have begun : Outgrows
        (markupLength (source.withRowRoles roles) config.htmlPrefixRole row.number)
        (visit config delegate source (.beginRow row.parent row.number row.depth))
        (visit config delegate (source.withRowRoles roles)
          (.beginRow row.parent row.number row.depth)) := by
      unfold visit
      rw [headed]
      exact (Outgrows.of _).andThen fun first => (Outgrows.of _).andThen fun className =>
        (Outgrows.write (.refl _)).andThen fun _ => outgrows_rowHeader unmarked row.number
    have ended : Outgrows 0 (visit config delegate source (.endRow row.parent row.number row.depth))
        (visit config delegate (source.withRowRoles roles)
          (.endRow row.parent row.number row.depth)) := .write (.refl _)
    have one : markupLengths (source.withRowRoles roles) config.htmlPrefixRole
        (Act.row row columns).row?.toList =
          markupLength (source.withRowRoles roles) config.htmlPrefixRole row.number + 0 := rfl
    have inside : Outgrows 0
        (cells (visit config delegate source) row.parent row.number row.depth 0 columns)
        (cells (visit config delegate (source.withRowRoles roles)) row.parent row.number row.depth
          0 columns) := outgrows_cells row 0 columns
    rw [one]
    exact begun.bind fun _ => inside.andThen fun _ => ended

theorem outgrows_acts (headed : config.rowHeaders = true)
    (unmarked : Unmarked source (source.withRowRoles roles) config.htmlPrefixRole)
    (acts : List (Act ν)) :
    Outgrows
      (markupLengths (source.withRowRoles roles) config.htmlPrefixRole
        (acts.filterMap Act.row?))
      (Act.performAll (visit config delegate source) acts)
      (Act.performAll (visit config delegate (source.withRowRoles roles)) acts) := by
  induction acts with
  | nil => exact .pure ()
  | cons act rest ih =>
    have total : markupLengths (source.withRowRoles roles) config.htmlPrefixRole
        ((act :: rest).filterMap Act.row?) =
          markupLengths (source.withRowRoles roles) config.htmlPrefixRole act.row?.toList +
            markupLengths (source.withRowRoles roles) config.htmlPrefixRole
              (rest.filterMap Act.row?) := by
      cases act with
      | row row columns => rfl
      | enter | close | leave => exact (Nat.zero_add _).symm
    rw [Act.performAll, Act.performAll, total]
    exact (outgrows_act headed unmarked act).bind fun _ => ih

theorem outgrows_body (headed : config.rowHeaders = true)
    (unmarked : Unmarked source (source.withRowRoles roles) config.htmlPrefixRole)
    {cap : Option Value} (capped : config.rowCap = .ok cap) {deepest : Int}
    (limited : ceiling config.maxDepth = .ok deepest) :
    Outgrows
      (markupLengths (source.withRowRoles roles) config.htmlPrefixRole
        (script source none 0 true deepest (some (Budget.ofLimit cap))).rows)
      (body config delegate source) (body config delegate (source.withRowRoles roles)) := by
  have walked : Outgrows
      (markupLengths (source.withRowRoles roles) config.htmlPrefixRole
        (script source none 0 true deepest (some (Budget.ofLimit cap))).rows)
      (walkAll config source (visit config delegate source) true (some (Budget.ofLimit cap)))
      (walkAll config (source.withRowRoles roles)
        (visit config delegate (source.withRowRoles roles)) true (some (Budget.ofLimit cap))) := by
    rw [walkAll_withRowRoles, walkAll_eq, walkAll_eq, limited]
    exact (outgrows_acts headed unmarked _).bind fun _ => (Outgrows.of _).andThen fun left =>
      .pure _
  rw [body, body, capped]
  exact walked.bind fun truncated => .pure _

theorem answer_filled_of_body {refusal : Nat → Option Failure} {capReached : Option Value}
    {after : Draft} (ran : body config delegate source { refusal } = .ok capReached after)
    (span : Nat) (opening : String) :
    answer refusal (filled config delegate source span opening) =
      .ok (opening ++ after.sheet.text ++ ellipsis config span capReached.isSome ++ "</table>\n",
        capReached) := by
  simp only [answer, filled, bind, EStateM.bind, ran]
  rfl

theorem answer_filled_of_failure {refusal : Nat → Option Failure} {failure : Failure}
    {after : Draft} (ran : body config delegate source { refusal } = .error failure after)
    (span : Nat) (opening : String) :
    answer refusal (filled config delegate source span opening) = .error failure := by
  simp only [answer, filled, bind, EStateM.bind, ran]

/-- What a table writes more if its source has the roles: the markup of the headers of all rows that
it shows. -/
inductive Marked (config : Config) (source : Source ν)
    (roles : Value → Value → Except Failure Value) : Nat → Prop
  | none (empty : source.rowCount none = .ok 0) : Marked config source roles 0
  | rows {cap : Option Value} {deepest : Int} {left : Option Budget}
      (capped : config.rowCap = .ok cap)
      (ends : (script source none 0 true deepest (some (Budget.ofLimit cap))).ends = .ok left) :
      Marked config source roles
        (markupLengths (source.withRowRoles roles) config.htmlPrefixRole
          (script source none 0 true deepest (some (Budget.ofLimit cap))).rows)

theorem answer_filled_grown (headed : config.rowHeaders = true)
    (unmarked : Unmarked source (source.withRowRoles roles) config.htmlPrefixRole) (span : Nat)
    (opening : String) (refusal : Nat → Option Failure) :
    let filled' (source : Source ν) := answer refusal (filled config delegate source span opening)
    (∃ failure, filled' source = .error failure ∧
      filled' (source.withRowRoles roles) = .error failure) ∨
    ∃ more text text' capReached, filled' source = .ok (text, capReached) ∧
      filled' (source.withRowRoles roles) = .ok (text', capReached) ∧
      Grown more text text' ∧ Marked config source roles more := by
  intro filled'
  cases capped : config.rowCap with
  | error failure =>
    have fails : ∀ source, filled' source = .error failure := fun source => by
      simp only [filled', filled, body, bind_assoc, answer_of_bind, capped]
      rfl
    exact .inl ⟨failure, fails _, fails _⟩
  | ok cap =>
    cases limited : ceiling config.maxDepth with
    | error failure =>
      have fails : ∀ source, filled' source = .error failure := fun source => by
        simp only [filled', filled, body, walkAll, bind_assoc, answer_of_bind, capped, limited]
        rfl
      exact .inl ⟨failure, fails _, fails _⟩
    | ok deepest =>
      have bodies : Outgrows _ (body config delegate source)
          (body config delegate (source.withRowRoles roles)) :=
        outgrows_body headed unmarked capped limited
      have begins : Ahead 0 { refusal } { refusal } := ⟨rfl, rfl, .refl _⟩
      obtain ⟨failure, after, after', fails, fails'⟩ | ⟨capReached, after, after', ran, ran',
        ahead⟩ := bodies.both begins
      · exact .inl ⟨failure, answer_filled_of_failure fails span opening,
          answer_filled_of_failure fails' span opening⟩
      · have written := answer_filled_of_body ran span opening
        have returns := (filled_comes config delegate source span opening refusal).2 _ written
        rw [capped, ok_bind, rowByRow, limited, ok_bind] at returns
        obtain ⟨lines, -, returns⟩ := bind_eq_ok.mp returns
        obtain ⟨left, ends, -⟩ := bind_eq_ok.mp returns
        refine .inr ⟨_, _, _, capReached, written, answer_filled_of_body ran' span opening, ?_,
          .rows capped ends⟩
        have grown := ((Grown.refl opening).append ahead.text).append
          ((Grown.refl (ellipsis config span capReached.isSome)).append (.refl "</table>\n"))
        simpa only [Nat.zero_add, Nat.add_zero, String.append_assoc] using grown

theorem head_withRowRoles (columns : Nat) :
    head config delegate (source.withRowRoles roles) columns =
      head config delegate source columns := by
  simp only [head, headerRow_withRowRoles]

variable (delegate) in
theorem answer_render_grown (headed : config.rowHeaders = true)
    (unmarked : Unmarked source (source.withRowRoles roles) config.htmlPrefixRole)
    (refusal : Nat → Option Failure) :
    (∃ failure, answer refusal (render config delegate source) = .error failure ∧
      answer refusal (render config delegate (source.withRowRoles roles)) = .error failure) ∨
    ∃ more text text' capReached,
      answer refusal (render config delegate source) = .ok (text, capReached) ∧
      answer refusal (render config delegate (source.withRowRoles roles)) =
        .ok (text', capReached) ∧
      Grown more text text' ∧ Marked config source roles more := by
  have columnCount : (source.withRowRoles roles).columnCount = source.columnCount := rfl
  have rowCount : (source.withRowRoles roles).rowCount = source.rowCount := rfl
  simp only [render_eq, answer_of_bind, head_withRowRoles, columnCount, rowCount]
  cases source.columnCount none with
  | error failure => exact .inl ⟨failure, rfl, rfl⟩
  | ok columns =>
    simp only [ok_bind]
    cases head config delegate source columns.toNat with
    | error failure => exact .inl ⟨failure, rfl, rfl⟩
    | ok opening =>
      simp only [ok_bind]
      cases counted : source.rowCount none with
      | error failure => exact .inl ⟨failure, rfl, rfl⟩
      | ok rows =>
        simp only [ok_bind]
        by_cases nothing : rows = 0
        · rw [if_pos nothing, if_pos nothing]
          exact .inr ⟨0, _, _, _, rfl, rfl, .refl _, .none (nothing ▸ counted)⟩
        · rw [if_neg nothing, if_neg nothing]
          exact answer_filled_grown headed unmarked _ opening refusal

end Table

end Html

end TreeTable

import TreeTable.Serializer
import TreeTable.Proofs.Walk.Script

/-!
What the steps of a render come to, told apart from the draft that they work on. A refusal only ever
makes a render fail, so whatever a render answers it would answer without any.
-/

namespace TreeTable

variable {ν α β : Type}

structure Sheet where
  pieces : List String
  cells : List Value

def Draft.sheet (draft : Draft) : Sheet := ⟨draft.pieces, draft.cells⟩

def Sheet.text (sheet : Sheet) : String := String.join sheet.pieces.reverse

namespace Render

/-- Steps that end as `outcome` does, and then have changed the sheet as it tells. -/
def Does (change : α → β → Sheet → Sheet → Prop) (steps : Render α)
    (outcome : Except Failure β) : Prop :=
  ∀ before, match steps before with
    | .ok answer after => after.refusal = before.refusal ∧
      ∃ told, outcome = .ok told ∧ change answer told before.sheet after.sheet
    | .error failure _ =>
      (∀ asked, before.refusal asked = none) → outcome = .error failure

def Tells : Render α → Except Failure α → Prop :=
  Does fun answer told before after => answer = told ∧ after = before

def Writes : Render Unit → Except Failure String → Prop :=
  Does fun _ text before after => after.text = before.text ++ text

def Adds : Render Unit → Except Failure (List String) → Prop :=
  Does fun _ pieces before after => after.pieces = pieces.reverse ++ before.pieces

def Fills : Render Unit → Except Failure (List Value) → Prop :=
  Does fun _ cells before after => after = { before with cells := cells.reverse ++ before.cells }

theorem Tells.andThen {γ : Type} {first : Render α} {answer : Except Failure α}
    {next : α → Render β} {outcome : α → Except Failure γ}
    {change : β → γ → Sheet → Sheet → Prop} (tells : Tells first answer)
    (does : ∀ told, Does change (next told) (outcome told)) :
    Does change (first >>= next) (answer >>= outcome) := by
  intro before
  have begins := tells before
  simp only [Bind.bind, EStateM.bind]
  cases ran : first before with
  | error failure after =>
    rw [ran] at begins
    intro quiet
    rw [begins quiet]
    rfl
  | ok found between =>
    rw [ran] at begins
    obtain ⟨kept, told, rfl, rfl, same⟩ := begins
    have ends := does found between
    simp only [Except.bind]
    cases ran' : next found between with
    | error failure after =>
      rw [ran', kept] at ends
      exact ends
    | ok answer' after =>
      rw [ran', same] at ends
      exact ⟨ends.1.trans kept, ends.2⟩

theorem Does.append {γ : Type} [Append γ] {change : Unit → γ → Sheet → Sheet → Prop}
    {first second : Render Unit} {outcome outcome' : Except Failure γ}
    (trans : ∀ told told' before between after, change () told before between →
      change () told' between after → change () (told ++ told') before after)
    (does : Does change first outcome) (does' : Does change second outcome') :
    Does change (first >>= fun _ => second)
      (outcome >>= fun told => outcome' >>= fun told' => .ok (told ++ told')) := by
  intro before
  have begins := does before
  simp only [Bind.bind, EStateM.bind]
  cases ran : first before with
  | error failure after =>
    rw [ran] at begins
    intro quiet
    rw [begins quiet]
    rfl
  | ok _ between =>
    rw [ran] at begins
    obtain ⟨kept, told, rfl, changed⟩ := begins
    have ends := does' between
    simp only [Except.bind]
    cases ran' : second between with
    | error failure after =>
      rw [ran', kept] at ends
      intro quiet
      rw [ends quiet]
    | ok _ after =>
      rw [ran'] at ends
      obtain ⟨kept', told', rfl, changed'⟩ := ends
      exact ⟨kept'.trans kept, told ++ told', rfl, trans _ _ _ _ _ changed changed'⟩

theorem Writes.append {first second : Render Unit} {text text' : Except Failure String}
    (writes : Writes first text) (writes' : Writes second text') :
    Writes (first >>= fun _ => second)
      (text >>= fun told => text' >>= fun told' => .ok (told ++ told')) :=
  Does.append (fun _ _ _ _ _ wrote wrote' => by rw [wrote', wrote, String.append_assoc])
    writes writes'

theorem Adds.append {first second : Render Unit} {pieces pieces' : Except Failure (List String)}
    (adds : Adds first pieces) (adds' : Adds second pieces') :
    Adds (first >>= fun _ => second)
      (pieces >>= fun told => pieces' >>= fun told' => .ok (told ++ told')) :=
  Does.append (fun _ _ _ _ _ added added' => by simp [added', added]) adds adds'

theorem Adds.writes {steps : Render Unit} {pieces : Except Failure (List String)}
    (adds : Adds steps pieces) : Writes steps (String.join <$> pieces) := by
  intro before
  have added := adds before
  cases ran : steps before with
  | error failure after =>
    rw [ran] at added
    intro quiet
    rw [added quiet]
    rfl
  | ok _ after =>
    rw [ran] at added
    obtain ⟨kept, told, rfl, grown⟩ := added
    refine ⟨kept, String.join told, rfl, ?_⟩
    simp [Sheet.text, grown, String.join_append]

theorem Fills.append {first second : Render Unit} {cells cells' : Except Failure (List Value)}
    (fills : Fills first cells) (fills' : Fills second cells') :
    Fills (first >>= fun _ => second)
      (cells >>= fun told => cells' >>= fun told' => .ok (told ++ told')) :=
  Does.append (fun _ _ _ _ _ filled filled' => by simp [filled', filled]) fills fills'

theorem tells_pure (answer : α) : Tells (pure answer) (.ok answer) :=
  fun _ => ⟨rfl, answer, rfl, rfl, rfl⟩

theorem tells_of (outcome : Except Failure α) : Tells (Step.of outcome) outcome := by
  intro before
  cases outcome with
  | error failure => exact fun _ => rfl
  | ok answer => exact ⟨rfl, answer, rfl, rfl, rfl⟩

theorem tells_ask (delegate : Delegate) (source : Source ν) (parent : Option ν)
    (row column : Value) :
    Tells (ask delegate source parent row column) (delegate.text source parent row column) := by
  intro before
  unfold ask
  rw [Step.get_bind]
  dsimp only
  rw [Step.modify_bind]
  cases refused : before.refusal before.asked with
  | some failure => exact fun quiet => absurd (quiet before.asked) (by simp [refused])
  | none => exact tells_of _ _

theorem writes_nothing : Writes (pure ()) (.ok "") :=
  fun _ => ⟨rfl, "", rfl, String.append_empty.symm⟩

theorem writes_write (piece : String) : Writes (write piece) (.ok piece) := by
  refine fun before => ⟨rfl, piece, rfl, ?_⟩
  simp [Draft.sheet, Sheet.text]

theorem fills_nothing : Fills (pure ()) (.ok []) := fun _ => ⟨rfl, [], rfl, rfl⟩

theorem fills_addCell (cell : Value) : Fills (addCell cell) (.ok [cell]) :=
  fun _ => ⟨rfl, [cell], rfl, rfl⟩

theorem adds_nothing : Adds (pure ()) (.ok []) := fun _ => ⟨rfl, [], rfl, rfl⟩

theorem adds_write (piece : String) : Adds (write piece) (.ok [piece]) :=
  fun _ => ⟨rfl, [piece], rfl, rfl⟩

theorem adds_of_fills {fill : Render Unit} {cells : Except Failure (List Value)}
    (fills : Fills fill cells) (finish : List Value → Except Failure String) :
    Adds (clearCells >>= fun _ => fill >>= fun _ => rowCells >>= fun collected =>
        Step.of (finish collected) >>= write)
      (cells >>= fun collected => finish collected >>= fun line => .ok [line]) := by
  intro before
  let cleared : Draft := { before with cells := [] }
  have filled := fills cleared
  have begins : (clearCells >>= fun _ => fill >>= fun _ => rowCells >>= fun collected =>
      Step.of (finish collected) >>= write) before =
        (fill >>= fun _ => rowCells >>= fun collected =>
          Step.of (finish collected) >>= write) cleared := rfl
  rw [begins]
  simp only [Bind.bind, EStateM.bind]
  cases ran : fill cleared with
  | error failure after =>
    rw [ran] at filled
    intro quiet
    rw [filled quiet]
    rfl
  | ok _ after =>
    rw [ran] at filled
    obtain ⟨kept, collected, rfl, same⟩ := filled
    have pieces : after.pieces = before.pieces := congrArg Sheet.pieces same
    have cells : after.cells = collected.reverse ++ [] := congrArg Sheet.cells same
    have reversed : after.cells.reverse = collected := by rw [cells]; simp
    have gathered : rowCells after = .ok after.cells.reverse after := rfl
    simp only [gathered, reversed, Except.bind]
    cases finish collected with
    | error failure => exact fun _ => rfl
    | ok line =>
      refine ⟨kept, [line], rfl, ?_⟩
      simp [Draft.sheet, pieces]

theorem writes_of_fills {fill : Render Unit} {cells : Except Failure (List Value)}
    (fills : Fills fill cells) (finish : List Value → Except Failure String) :
    Writes (clearCells >>= fun _ => fill >>= fun _ => rowCells >>= fun collected =>
        Step.of (finish collected) >>= write)
      (cells >>= finish) := by
  have writes := (adds_of_fills fills finish).writes
  have line : String.join <$> (cells >>= fun collected => finish collected >>= fun line =>
      (.ok [line] : Except Failure (List String))) = cells >>= finish := by
    cases cells with
    | error failure => rfl
    | ok collected =>
      rw [ok_bind, ok_bind]
      cases finish collected with
      | error failure => rfl
      | ok line => simp [bind, Except.bind, Functor.map, Except.map]
  rwa [line] at writes

def AddsActs (visit : Event ν → Render Unit)
    (pieces : Walk.Act ν → Except Failure (List String)) : Prop :=
  ∀ act, Adds (act.perform visit) (pieces act)

theorem AddsActs.performAll {visit : Event ν → Render Unit}
    {pieces : Walk.Act ν → Except Failure (List String)} (adds : AddsActs visit pieces)
    (acts : List (Walk.Act ν)) :
    Adds (Walk.Act.performAll visit acts) (List.flatten <$> acts.mapM pieces) := by
  induction acts with
  | nil => exact adds_nothing
  | cons act rest ih =>
    have whole := (adds act).append ih
    rw [Walk.Act.performAll, List.mapM_cons]
    simp only [map_eq_pure_bind, bind_assoc, pure_bind, List.flatten_cons] at whole ⊢
    exact whole

structure WritesRows (source : Source ν) (visit : Event ν → Render Unit)
    (line : Walk.Row ν → Except Failure String) : Prop where
  row : ∀ row columns, source.columns row.parent = .ok columns →
    Writes ((Walk.Act.row row columns).perform visit) (line row)
  silent : ∀ act : Walk.Act ν, act.row? = none → act.perform visit = pure ()

theorem WritesRows.performAll {source : Source ν} {visit : Event ν → Render Unit}
    {line : Walk.Row ν → Except Failure String} (writes : WritesRows source visit line)
    (acts : List (Walk.Act ν)) (counted : ∀ act ∈ acts, act.Counted source) :
    Writes (Walk.Act.performAll visit acts)
      (String.join <$> (acts.filterMap Walk.Act.row?).mapM line) := by
  induction acts with
  | nil => exact writes_nothing
  | cons act rest ih =>
    have more := ih fun act among => counted act (List.mem_cons_of_mem _ among)
    cases found : act.row? with
    | none =>
      rw [List.filterMap_cons_none found, Walk.Act.performAll, writes.silent act found, pure_bind]
      exact more
    | some row =>
      cases act with
      | enter | close | leave => cases found
      | row row columns =>
        obtain rfl := Option.some.inj found
        have first := writes.row row columns (counted _ List.mem_cons_self)
        rw [List.filterMap_cons_some found, Walk.Act.performAll, join_mapM_cons]
        exact first.append more

theorem walkAll_eq (config : Config) (source : Source ν) (visit : Event ν → Render Unit)
    (recursive : Bool) (budget : Option Budget) :
    walkAll config source visit recursive budget =
      Step.of (Walk.ceiling config.maxDepth) >>= fun deepest =>
        Walk.Act.performAll visit (Walk.script source none 0 recursive deepest budget).acts >>=
          fun _ => Step.of (Walk.script source none 0 recursive deepest budget).ends >>= fun left =>
            pure ((left.map Budget.truncated).getD false) := by
  simp only [walkAll, Walk.within_eq_replay, Walk.Script.replay, bind_assoc]

def answer (refusal : Nat → Option Failure) (steps : Render α) : Except Failure α :=
  match steps { refusal } with
  | .ok answer _ => .ok answer
  | .error failure _ => .error failure

theorem answer_of_bind (refusal : Nat → Option Failure) (outcome : Except Failure β)
    (next : β → Render α) :
    answer refusal (Step.of outcome >>= next) =
      outcome >>= fun found => answer refusal (next found) := by
  cases outcome <;> rfl

theorem answer_map (refusal : Nat → Option Failure) (change : α → β) (steps : Render α) :
    answer refusal (steps >>= fun given => pure (change given)) =
      change <$> answer refusal steps := by
  simp only [answer, Bind.bind, EStateM.bind]
  cases steps { refusal } <;> rfl

/-- An answer that comes to `outcome` unless something was refused on the way. -/
def UnlessRefused (refusal : Nat → Option Failure) (answered outcome : Except Failure α) : Prop :=
  ((∀ asked, refusal asked = none) → answered = outcome) ∧
    ∀ given, answered = .ok given → outcome = .ok given

theorem UnlessRefused.bind {refusal : Nat → Option Failure}
    {answered outcome : β → Except Failure α}
    (comes : ∀ found, UnlessRefused refusal (answered found) (outcome found))
    (first : Except Failure β) :
    UnlessRefused refusal (first >>= answered) (first >>= outcome) := by
  cases first with
  | error failure => exact ⟨fun _ => rfl, fun _ => id⟩
  | ok found => exact comes found

theorem UnlessRefused.map {refusal : Nat → Option Failure} {answered outcome : Except Failure α}
    (comes : UnlessRefused refusal answered outcome) (change : α → β) :
    UnlessRefused refusal (change <$> answered) (change <$> outcome) := by
  refine ⟨fun quiet => congrArg _ (comes.1 quiet), fun given => ?_⟩
  cases answered with
  | error failure => exact fun answered => nomatch answered
  | ok found =>
    rw [comes.2 found rfl]
    exact id

theorem answer_does {γ : Type} {change : Unit → γ → Sheet → Sheet → Prop} {steps : Render Unit}
    {outcome : Except Failure γ} (does : Does change steps outcome) (ends : Except Failure β)
    (next : β → Render α) (final : β → γ → Except Failure α)
    (reads : ∀ found told draft, change () told ⟨[], []⟩ draft.sheet →
      next found draft = Step.of (final found told) draft)
    (refusal : Nat → Option Failure) :
    UnlessRefused refusal (answer refusal (steps >>= fun _ => Step.of ends >>= next))
      (outcome >>= fun told => ends >>= fun found => final found told) := by
  have done := does { refusal }
  simp only [answer, Bind.bind, EStateM.bind]
  cases ran : steps { refusal } with
  | error failure after =>
    rw [ran] at done
    refine ⟨fun quiet => ?_, fun _ answered => by cases answered⟩
    rw [done quiet]
    rfl
  | ok _ after =>
    rw [ran] at done
    obtain ⟨-, told, rfl, changed⟩ := done
    cases ends with
    | error failure => exact ⟨fun _ => rfl, fun _ answered => by cases answered⟩
    | ok found =>
      simp only [Step.of, pure, EStateM.pure, reads found told after changed, Except.bind]
      cases final found told with
      | error failure => exact ⟨fun _ => rfl, fun _ answered => by cases answered⟩
      | ok given => exact ⟨fun _ => rfl, fun _ => id⟩

def actByAct (config : Config) (source : Source ν)
    (pieces : Walk.Act ν → Except Failure (List String)) (recursive : Bool)
    (budget : Option Budget) (final : Bool → List String → Except Failure α) :
    Except Failure α := do
  let deepest ← Walk.ceiling config.maxDepth
  let script := Walk.script source none 0 recursive deepest budget
  let added ← script.acts.mapM pieces
  let left ← script.ends
  final ((left.map Budget.truncated).getD false) added.flatten

theorem map_actByAct (change : α → β) (config : Config) (source : Source ν)
    (pieces : Walk.Act ν → Except Failure (List String)) (recursive : Bool)
    (budget : Option Budget) (final : Bool → List String → Except Failure α) :
    change <$> actByAct config source pieces recursive budget final =
      actByAct config source pieces recursive budget fun truncated written =>
        change <$> final truncated written := by
  simp only [actByAct, map_bind]

theorem answer_acts {visit : Event ν → Render Unit}
    {pieces : Walk.Act ν → Except Failure (List String)} (adds : AddsActs visit pieces)
    (config : Config) (source : Source ν) (recursive : Bool) (budget : Option Budget)
    (next : Bool → Render α) (final : Bool → List String → Except Failure α)
    (reads : ∀ truncated draft,
      next truncated draft = Step.of (final truncated draft.pieces.reverse) draft)
    (refusal : Nat → Option Failure) :
    UnlessRefused refusal (answer refusal (walkAll config source visit recursive budget >>= next))
      (actByAct config source pieces recursive budget final) := by
  simp only [walkAll_eq, bind_assoc, pure_bind, answer_of_bind, actByAct]
  refine .bind (fun deepest => ?_) _
  have comes := answer_does
    (adds.performAll (Walk.script source none 0 recursive deepest budget).acts)
    (Walk.script source none 0 recursive deepest budget).ends
    (fun left => next ((left.map Budget.truncated).getD false))
    (fun left => final ((left.map Budget.truncated).getD false))
    (fun left told draft added => by
      have written : draft.pieces.reverse = told := by
        have pieces : draft.pieces = told.reverse ++ [] := added
        rw [pieces, List.append_nil, List.reverse_reverse]
      rw [reads, written])
    refusal
  simp only [map_eq_pure_bind, bind_assoc, pure_bind] at comes
  exact comes

theorem answer_writes {steps : Render Unit} {text : Except Failure String}
    (writes : Writes steps text) (ends : Except Failure β) (next : β → Render α)
    (final : β → String → α) (reads : ∀ found draft,
      next found draft = .ok (final found (String.join draft.pieces.reverse)) draft)
    (refusal : Nat → Option Failure) :
    UnlessRefused refusal (answer refusal (steps >>= fun _ => Step.of ends >>= next))
      (text >>= fun written => ends >>= fun found => .ok (final found written)) :=
  answer_does writes ends next (fun found written => .ok (final found written))
    (fun found told draft grown => by
      have whole : String.join draft.pieces.reverse = told := grown.trans String.empty_append
      rw [reads, whole]
      rfl)
    refusal

def rowByRow (config : Config) (source : Source ν) (line : Walk.Row ν → Except Failure String)
    (recursive : Bool) (budget : Option Budget) (final : Bool → String → α) : Except Failure α := do
  let deepest ← Walk.ceiling config.maxDepth
  let script := Walk.script source none 0 recursive deepest budget
  let lines ← script.rows.mapM line
  let left ← script.ends
  return final ((left.map Budget.truncated).getD false) (String.join lines)

theorem map_rowByRow (change : α → β) (config : Config) (source : Source ν)
    (line : Walk.Row ν → Except Failure String) (recursive : Bool) (budget : Option Budget)
    (final : Bool → String → α) :
    change <$> rowByRow config source line recursive budget final =
      rowByRow config source line recursive budget fun truncated lines =>
        change (final truncated lines) := by
  simp only [rowByRow, map_bind, map_pure]

theorem answer_walkAll {source : Source ν} {visit : Event ν → Render Unit}
    {line : Walk.Row ν → Except Failure String} (writes : WritesRows source visit line)
    (config : Config) (recursive : Bool) (budget : Option Budget) (next : Bool → Render α)
    (final : Bool → String → α) (reads : ∀ truncated draft,
      next truncated draft = .ok (final truncated (String.join draft.pieces.reverse)) draft)
    (refusal : Nat → Option Failure) :
    UnlessRefused refusal (answer refusal (walkAll config source visit recursive budget >>= next))
      (rowByRow config source line recursive budget final) := by
  simp only [walkAll_eq, bind_assoc, pure_bind, answer_of_bind, rowByRow]
  refine .bind (fun deepest => ?_) _
  have counted := Walk.script_counted source none 0 recursive deepest budget
  have comes := answer_writes (writes.performAll _ counted)
    (Walk.script source none 0 recursive deepest budget).ends
    (fun left => next ((left.map Budget.truncated).getD false))
    (fun left => final ((left.map Budget.truncated).getD false)) (fun left => reads _) refusal
  simp only [map_eq_pure_bind, bind_assoc, pure_bind] at comes
  exact comes

end Render

theorem Serializer.outcome_rendering (serializer : Serializer) (refusal : Nat → Option Failure)
    (source : Source ν) :
    (serializer.rendering refusal source).outcome =
      Prod.fst <$> Render.answer refusal (serializer.render source) := by
  unfold rendering Render.answer
  cases serializer.render source { refusal } <;> rfl

theorem Serializer.outcome_of_uncapped {serializer : Serializer} {source : Source ν}
    {steps : Render α} {change : α → Value}
    (rendered : serializer.render source = steps >>= fun given => pure (change given, none))
    (refusal : Nat → Option Failure) :
    (serializer.rendering refusal source).outcome = change <$> Render.answer refusal steps := by
  rw [outcome_rendering, rendered, Render.answer_map]
  cases Render.answer refusal steps <;> rfl

end TreeTable

import TreeTable.Proofs.Render

namespace TreeTable

variable {ν α β : Type}

namespace Render

def ended : EStateM.Result Failure Draft α → Draft
  | .ok _ after => after
  | .error _ after => after

def withRefusal (refusal : Nat → Option Failure) :
    EStateM.Result Failure Draft α → EStateM.Result Failure Draft α
  | .ok answer after => .ok answer { after with refusal }
  | .error failure after => .error failure { after with refusal }

def AgreeWithin (refusal refusal' : Nat → Option Failure) (first last : Nat) : Prop :=
  ∀ number, first ≤ number → number < last → refusal' number = refusal number

theorem ask_eq (delegate : Delegate) (source : Source ν) (parent : Option ν) (row column : Value)
    (before : Draft) : ask delegate source parent row column before =
      match before.refusal before.asked with
      | some failure => .error failure { before with asked := before.asked + 1 }
      | none => Step.of (delegate.text source parent row column)
          { before with asked := before.asked + 1 } := by
  unfold ask
  rw [Step.get_bind]
  dsimp only
  rw [Step.modify_bind]
  cases before.refusal before.asked <;> rfl

/-- Steps that go the same way, to their end or to their failure, wherever they are refused the same
of what they ask for. -/
structure HeedsAsked (steps : Render α) : Prop where
  grows : ∀ before, before.asked ≤ (ended (steps before)).asked
  keeps : ∀ before, (ended (steps before)).refusal = before.refusal
  alike : ∀ before refusal,
    AgreeWithin before.refusal refusal before.asked (ended (steps before)).asked →
      steps { before with refusal } = withRefusal refusal (steps before)

namespace HeedsAsked

theorem bind {first : Render α} {next : α → Render β} (heeds : HeedsAsked first)
    (goes : ∀ answer, HeedsAsked (next answer)) : HeedsAsked (first >>= next) := by
  constructor
  · intro before
    have grown := heeds.grows before
    simp only [Bind.bind, EStateM.bind]
    cases ran : first before with
    | error failure after =>
      rw [ran] at grown
      exact grown
    | ok middle between =>
      rw [ran] at grown
      exact Nat.le_trans grown ((goes middle).grows between)
  · intro before
    have kept := heeds.keeps before
    simp only [Bind.bind, EStateM.bind]
    cases ran : first before with
    | error failure after =>
      rw [ran] at kept
      exact kept
    | ok middle between =>
      rw [ran] at kept
      exact ((goes middle).keeps between).trans kept
  · intro before refusal agree
    have grown := heeds.grows before
    have kept := heeds.keeps before
    have alike := heeds.alike before refusal
    simp only [Bind.bind, EStateM.bind] at agree ⊢
    cases ran : first before with
    | error failure after =>
      simp only [ran] at agree alike ⊢
      rw [alike agree]
      rfl
    | ok middle between =>
      simp only [ran] at agree alike grown kept ⊢
      have further := (goes middle).grows between
      have early : AgreeWithin before.refusal refusal before.asked between.asked :=
        fun number from' within => agree number from' (Nat.lt_of_lt_of_le within further)
      have late : AgreeWithin between.refusal refusal between.asked
          (ended (next middle between)).asked := fun number from' within =>
        (agree number (Nat.le_trans grown from') within).trans (congrFun kept.symm number)
      rw [alike early]
      exact (goes middle).alike between refusal late

theorem of (outcome : Except Failure α) : HeedsAsked (Step.of outcome) := by
  cases outcome <;> exact ⟨fun _ => Nat.le_refl _, fun _ => rfl, fun _ _ _ => rfl⟩

theorem pure (answer : α) : HeedsAsked (pure answer) := of (.ok answer)

theorem modify {change : Draft → Draft} (asked : ∀ draft, (change draft).asked = draft.asked)
    (apart : ∀ draft refusal, change { draft with refusal } = { change draft with refusal }) :
    HeedsAsked (modify change) where
  grows before := Nat.le_of_eq (asked before).symm
  keeps before := by
    have kept : change before = { change before with refusal := before.refusal } :=
      apart before before.refusal
    have same : (change before).refusal = before.refusal := by rw [kept]
    exact same
  alike before refusal _ := congrArg (EStateM.Result.ok ()) (apart before refusal)

theorem look {look : Draft → α} (apart : ∀ draft refusal, look { draft with refusal } = look draft) :
    HeedsAsked (get >>= fun draft => Pure.pure (look draft)) where
  grows _ := Nat.le_refl _
  keeps _ := rfl
  alike before refusal _ := by
    have same : look { before with refusal } = look before := apart before refusal
    exact congrArg (fun answer => EStateM.Result.ok answer { before with refusal }) same

theorem write (piece : String) : HeedsAsked (write piece) :=
  modify (fun _ => rfl) fun _ _ => rfl

theorem addCell (cell : Value) : HeedsAsked (addCell cell) :=
  modify (fun _ => rfl) fun _ _ => rfl

theorem clearCells : HeedsAsked clearCells := modify (fun _ => rfl) fun _ _ => rfl

theorem rowCells : HeedsAsked rowCells := look fun _ _ => rfl

theorem written : HeedsAsked written := look fun _ _ => rfl

theorem ite {condition : Prop} [Decidable condition] {first second : Render α}
    (heeds : HeedsAsked first) (heeds' : HeedsAsked second) :
    HeedsAsked (if condition then first else second) := by
  split
  · exact heeds
  · exact heeds'

theorem ask (delegate : Delegate) (source : Source ν) (parent : Option ν) (row column : Value) :
    HeedsAsked (ask delegate source parent row column) := by
  have grown : ∀ before,
      (ended (Render.ask delegate source parent row column before)).asked = before.asked + 1 := by
    intro before
    rw [ask_eq]
    cases before.refusal before.asked with
    | some failure => rfl
    | none => cases delegate.text source parent row column <;> rfl
  refine ⟨fun before => ?_, fun before => ?_, fun before refusal agree => ?_⟩
  · rw [grown]
    exact Nat.le_succ _
  · rw [ask_eq]
    cases before.refusal before.asked with
    | some failure => rfl
    | none => cases delegate.text source parent row column <;> rfl
  · rw [grown] at agree
    rw [ask_eq, ask_eq]
    dsimp only
    rw [agree before.asked (Nat.le_refl _) (Nat.lt_succ_self _)]
    cases before.refusal before.asked with
    | some failure => rfl
    | none => cases delegate.text source parent row column <;> rfl

variable {visit : Event ν → Render Unit}

theorem cells (heeds : ∀ event, HeedsAsked (visit event)) (parent : Option ν) (row : Nat)
    (depth : Int) (column left : Nat) :
    HeedsAsked (Walk.cells visit parent row depth column left) := by
  induction left generalizing column with
  | zero => exact pure ()
  | succ left ih =>
    rw [Walk.cells]
    exact (heeds _).bind fun _ => ih _

theorem performAll (heeds : ∀ event, HeedsAsked (visit event)) (acts : List (Walk.Act ν)) :
    HeedsAsked (Walk.Act.performAll visit acts) := by
  induction acts with
  | nil => exact pure ()
  | cons act rest ih =>
    rw [Walk.Act.performAll]
    refine bind ?_ fun _ => ih
    cases act with
    | enter | close | leave => exact heeds _
    | row => exact (heeds _).bind fun _ => (cells heeds _ _ _ _ _).bind fun _ => heeds _

theorem walkAll (heeds : ∀ event, HeedsAsked (visit event)) (config : Config) (source : Source ν)
    (recursive : Bool) (budget : Option Budget) :
    HeedsAsked (walkAll config source visit recursive budget) := by
  rw [walkAll_eq]
  exact (of _).bind fun _ => (performAll heeds _).bind fun _ => (of _).bind fun _ => pure _

end HeedsAsked

def Grants (refusal : Nat → Option Failure) (asked count : Nat) : Prop :=
  ∀ more, more < count → refusal (asked + more) = none

theorem grants_add {refusal : Nat → Option Failure} {asked first second : Nat} :
    Grants refusal asked (first + second) ↔
      Grants refusal asked first ∧ Grants refusal (asked + first) second := by
  constructor
  · intro grants
    refine ⟨fun more within => grants more (by omega), fun more within => ?_⟩
    rw [Nat.add_assoc]
    exact grants (first + more) (by omega)
  · rintro ⟨early, late⟩ more within
    by_cases before : more < first
    · exact early more before
    · have granted := late (more - first) (by omega)
      rwa [Nat.add_assoc, Nat.add_sub_cancel' (Nat.not_lt.mp before)] at granted

theorem HeedsAsked.eq_withRefusal_of_granted {steps : Render α} (heeds : HeedsAsked steps)
    {refusal : Nat → Option Failure} (granted : Grants refusal 0 (ended (steps { refusal })).asked) :
    steps { refusal := fun _ => none } = withRefusal (fun _ => none) (steps { refusal }) := by
  refine heeds.alike { refusal } (fun _ => none) fun number _ within => ?_
  have free := granted number within
  rw [Nat.zero_add] at free
  exact free.symm

/-- Steps that ask for `count` cell texts until they come to their end. -/
structure Asks (count : Nat) (steps : Render α) : Prop extends HeedsAsked steps where
  counts : ∀ before answer after, steps before = .ok answer after →
    after.asked = before.asked + count ∧ Grants before.refusal before.asked count

theorem Asks.bind {count count' : Nat} {first : Render α} {next : α → Render β}
    (asks : Asks count first) (goes : ∀ answer, Asks count' (next answer)) :
    Asks (count + count') (first >>= next) where
  toHeedsAsked := asks.toHeedsAsked.bind fun answer => (goes answer).toHeedsAsked
  counts before answer after ends := by
    obtain ⟨middle, between, began, ended⟩ := Step.bind_eq_ok.mp ends
    obtain ⟨counted, granted⟩ := asks.counts before middle between began
    obtain ⟨counted', granted'⟩ := (goes middle).counts between answer after ended
    have kept := asks.keeps before
    rw [began] at kept
    rw [counted, show between.refusal = before.refusal from kept] at granted'
    exact ⟨by omega, grants_add.mpr ⟨granted, granted'⟩⟩

theorem Asks.goOn {count : Nat} {first : Render α} {next : α → Render β} (quiet : Asks 0 first)
    (goes : ∀ answer, Asks count (next answer)) : Asks count (first >>= next) := by
  have both := quiet.bind goes
  rwa [Nat.zero_add] at both

theorem HeedsAsked.asks_none {steps : Render α} (heeds : HeedsAsked steps)
    (quiet : ∀ before, (ended (steps before)).asked = before.asked) : Asks 0 steps where
  toHeedsAsked := heeds
  counts before answer after ends := by
    have same := quiet before
    rw [ends] at same
    exact ⟨same, fun _ within => absurd within (Nat.not_lt_zero _)⟩

theorem asks_of (outcome : Except Failure α) : Asks 0 (Step.of outcome) :=
  (HeedsAsked.of outcome).asks_none fun _ => by cases outcome <;> rfl

theorem asks_pure (answer : α) : Asks 0 (pure answer) := asks_of (.ok answer)

theorem asks_write (piece : String) : Asks 0 (write piece) :=
  (HeedsAsked.write piece).asks_none fun _ => rfl

theorem asks_addCell (cell : Value) : Asks 0 (addCell cell) :=
  (HeedsAsked.addCell cell).asks_none fun _ => rfl

theorem asks_clearCells : Asks 0 clearCells := HeedsAsked.clearCells.asks_none fun _ => rfl

theorem asks_rowCells : Asks 0 rowCells := HeedsAsked.rowCells.asks_none fun _ => rfl

theorem asks_written : Asks 0 written := HeedsAsked.written.asks_none fun _ => rfl

theorem asks_ask (delegate : Delegate) (source : Source ν) (parent : Option ν)
    (row column : Value) : Asks 1 (ask delegate source parent row column) where
  toHeedsAsked := .ask delegate source parent row column
  counts before answer after ends := by
    rw [ask_eq] at ends
    cases refused : before.refusal before.asked with
    | some failure =>
      rw [refused] at ends
      cases ends
    | none =>
      rw [refused] at ends
      obtain ⟨-, rfl⟩ := Step.of_eq_ok.mp ends
      refine ⟨rfl, fun more within => ?_⟩
      obtain rfl := Nat.lt_one_iff.mp within
      exact refused

variable {κ : Type} {visit : Event ν → Render Unit} {questions : Walk.Act ν → List κ}

theorem asks_performAll {acts : List (Walk.Act ν)}
    (asks : ∀ act ∈ acts, Asks (questions act).length (act.perform visit)) :
    Asks (acts.flatMap questions).length (Walk.Act.performAll visit acts) := by
  induction acts with
  | nil => exact asks_pure ()
  | cons act rest ih =>
    obtain ⟨first, others⟩ := List.forall_mem_cons.mp asks
    rw [List.flatMap_cons, List.length_append, Walk.Act.performAll]
    exact first.bind fun _ => ih others

theorem asks_walkAll {config : Config} {source : Source ν} {recursive : Bool}
    {budget : Option Budget} {deepest : Int} (limited : Walk.ceiling config.maxDepth = .ok deepest)
    (asks : ∀ act ∈ (Walk.script source none 0 recursive deepest budget).acts,
      Asks (questions act).length (act.perform visit)) :
    Asks ((Walk.script source none 0 recursive deepest budget).acts.flatMap questions).length
      (walkAll config source visit recursive budget) := by
  rw [walkAll_eq, limited, Step.of_ok_bind]
  exact (asks_performAll asks).bind fun _ => (asks_of _).goOn fun _ => asks_pure _

end Render

theorem Serializer.rendering_of_asks {serializer : Serializer} {source : Source ν} {count : Nat}
    (asks : Render.Asks count (serializer.render source)) {refusal : Nat → Option Failure}
    {text : Value} (returns : (serializer.rendering refusal source).outcome = .ok text) :
    Render.Grants refusal 0 count ∧ ∀ refusal', Render.Grants refusal' 0 count →
      (serializer.rendering refusal' source).outcome = .ok text := by
  unfold rendering at returns ⊢
  cases ran : serializer.render source { refusal } with
  | error failure after =>
    rw [ran] at returns
    cases returns
  | ok answer after =>
    rw [ran] at returns
    obtain ⟨counted, granted⟩ := asks.counts _ _ _ ran
    refine ⟨granted, fun refusal' grants => ?_⟩
    have alike := asks.alike { refusal } refusal'
    rw [ran] at alike
    have agree : Render.AgreeWithin refusal refusal' 0 after.asked := fun number _ within => by
      have fewer : number < count := Nat.zero_add count ▸ counted ▸ within
      have free := (grants number fewer).trans (granted number fewer).symm
      rwa [Nat.zero_add] at free
    have ends : serializer.render source { refusal := refusal' } = _ := alike agree
    rw [ends]
    exact returns

end TreeTable

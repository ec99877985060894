import Mathlib.Data.List.Forall2
import TreeTable.Walk

namespace TreeTable

theorem ok_bind {ε α β : Type} (answer : α) (next : α → Except ε β) :
    (.ok answer >>= next) = next answer := rfl

theorem bind_eq_ok {ε α β : Type} {first : Except ε α} {next : α → Except ε β} {answer : β} :
    (first >>= next) = .ok answer ↔ ∃ middle, first = .ok middle ∧ next middle = .ok answer := by
  cases first with
  | error failure => simp [bind, Except.bind]
  | ok middle => simp [bind, Except.bind]

theorem pure_eq_ok {ε α : Type} {given answer : α} :
    (pure given : Except ε α) = .ok answer ↔ given = answer := by
  simp [pure, Except.pure]

theorem map_eq_ok {ε α β : Type} {change : α → β} {given : Except ε α} {answer : β} :
    change <$> given = .ok answer ↔ ∃ before, given = .ok before ∧ change before = answer := by
  cases given with
  | error failure => simp [Functor.map, Except.map]
  | ok before => simp [Functor.map, Except.map]

theorem join_mapM_cons {ε α : Type} (line : α → Except ε String) (first : α) (rest : List α) :
    String.join <$> (first :: rest).mapM line =
      line first >>= fun text => String.join <$> rest.mapM line >>= fun more =>
        .ok (text ++ more) := by
  rw [List.mapM_cons]
  cases line first with
  | error failure => rfl
  | ok text =>
    cases rest.mapM line with
    | error failure => rfl
    | ok lines => exact congrArg Except.ok String.join_cons

theorem mapM_congr {ε α β : Type} {given given' : α → Except ε β} {all : List α}
    (same : ∀ one ∈ all, given one = given' one) : all.mapM given = all.mapM given' := by
  induction all with
  | nil => rfl
  | cons one rest ih =>
    obtain ⟨first, others⟩ := List.forall_mem_cons.mp same
    rw [List.mapM_cons, List.mapM_cons, first, ih others]

theorem mapM_map {ε α β γ : Type} {change : β → γ} {changed : α → Except ε γ}
    {given : α → Except ε β} (same : ∀ one, changed one = change <$> given one) (all : List α) :
    all.mapM changed = List.map change <$> all.mapM given := by
  induction all with
  | nil => rfl
  | cons one all ih =>
    rw [List.mapM_cons, List.mapM_cons, ih, same]
    cases given one with
    | error failure => rfl
    | ok answer => cases all.mapM given <;> rfl

theorem mapM_pairs {ε α β : Type} {given : α → Except ε β} {all : List α}
    {found : List (α × β)} : all.mapM (fun one => Prod.mk one <$> given one) = .ok found ↔
      found.map Prod.fst = all ∧ ∀ pair ∈ found, given pair.1 = .ok pair.2 := by
  constructor
  · intro told
    induction all generalizing found with
    | nil =>
      obtain rfl := Except.ok.inj told
      exact ⟨rfl, nofun⟩
    | cons one rest ih =>
      rw [List.mapM_cons] at told
      obtain ⟨pair, first, told⟩ := bind_eq_ok.mp told
      obtain ⟨more, others, told⟩ := bind_eq_ok.mp told
      obtain rfl := pure_eq_ok.mp told
      obtain ⟨answer, answered, rfl⟩ := map_eq_ok.mp first
      obtain ⟨rfl, answers⟩ := ih others
      exact ⟨rfl, List.forall_mem_cons.mpr ⟨answered, answers⟩⟩
  · rintro ⟨rfl, answers⟩
    induction found with
    | nil => rfl
    | cons pair rest ih =>
      obtain ⟨first, others⟩ := List.forall_mem_cons.mp answers
      rw [List.map_cons, List.mapM_cons, first, ih others]
      rfl

section

variable {ε α β : Type} {condition : Prop}

def Comes (outcome : Except ε α) : Prop := ∃ answer, outcome = .ok answer

theorem comes_ok (answer : α) : Comes (.ok answer : Except ε α) := ⟨answer, rfl⟩

theorem not_comes_error (failure : ε) : ¬ Comes (.error failure : Except ε α) := by
  rintro ⟨answer, same⟩
  cases same

theorem comes_if_iff {condition : Prop} [Decidable condition] {answer : α} {failure : ε} :
    Comes (if condition then .ok answer else .error failure) ↔ condition := by
  by_cases holds : condition <;> simp [holds, comes_ok, not_comes_error]

theorem Comes.bind {first : Except ε α} {next : α → Except ε β} (comes : Comes first)
    (goes : ∀ answer, Comes (next answer)) : Comes (first >>= next) := by
  obtain ⟨answer, rfl⟩ := comes
  exact goes answer

theorem Comes.of_bind {first : Except ε α} {next : α → Except ε β}
    (comes : Comes (first >>= next)) : ∃ answer, first = .ok answer ∧ Comes (next answer) := by
  obtain ⟨last, ends⟩ := comes
  obtain ⟨answer, begins, ends⟩ := bind_eq_ok.mp ends
  exact ⟨answer, begins, last, ends⟩

theorem Comes.of_mapM {given : α → Except ε β} {all : List α} (comes : Comes (all.mapM given)) :
    ∀ one ∈ all, Comes (given one) := by
  induction all with
  | nil => exact nofun
  | cons one rest ih =>
    rw [List.mapM_cons] at comes
    obtain ⟨answer, first, comes⟩ := comes.of_bind
    obtain ⟨answers, others, -⟩ := comes.of_bind
    exact List.forall_mem_cons.mpr ⟨⟨answer, first⟩, ih ⟨answers, others⟩⟩

theorem comes_bind_iff {first : Except ε α} {next : α → Except ε β}
    (goes : ∀ answer, Comes (next answer) ↔ condition) :
    Comes (first >>= next) ↔ Comes first ∧ condition := by
  cases first with
  | error failure =>
    have stays : (.error failure >>= next) = .error failure := rfl
    simp [stays, not_comes_error]
  | ok answer =>
    rw [ok_bind, goes]
    exact ⟨fun holds => ⟨comes_ok answer, holds⟩, And.right⟩

theorem comes_map_iff {given : Except ε α} {change : α → β} :
    Comes (given >>= fun answer => pure (change answer)) ↔ Comes given := by
  have goes : ∀ answer, Comes (pure (change answer) : Except ε β) ↔ True :=
    fun answer => iff_true_intro (comes_ok (change answer))
  rw [comes_bind_iff goes, and_true]

end

def Answers {ε α : Type} (kind : α → Prop) (outcome : Except ε α) : Prop :=
  ∃ answer, outcome = .ok answer ∧ kind answer

namespace Answers

variable {ε α β : Type} {kind : α → Prop} {kind' : β → Prop}

theorem ok {answer : α} (isKind : kind answer) : Answers kind (.ok answer : Except ε α) :=
  ⟨answer, rfl, isKind⟩

theorem comes {outcome : Except ε α} (answers : Answers kind outcome) :
    Answers (fun _ => True) outcome := by
  obtain ⟨answer, same, -⟩ := answers
  exact ⟨answer, same, trivial⟩

theorem bind {outcome : Except ε α} {next : α → Except ε β} (answers : Answers kind outcome)
    (goes : ∀ answer, kind answer → Answers kind' (next answer)) :
    Answers kind' (outcome >>= next) := by
  obtain ⟨answer, rfl, isKind⟩ := answers
  exact goes answer isKind

theorem mapM {given : α → Except ε β} {all : List α}
    (answers : ∀ one ∈ all, Answers kind' (given one)) :
    Answers (fun answered => ∀ one ∈ answered, kind' one) (all.mapM given) := by
  induction all with
  | nil => exact .ok fun one among => nomatch among
  | cons one all ih =>
    rw [List.mapM_cons]
    have more := ih fun other among => answers other (List.mem_cons_of_mem _ among)
    refine (answers one List.mem_cons_self).bind fun first isKind => ?_
    refine more.bind fun rest areKind => ?_
    exact .ok (List.forall_mem_cons.mpr ⟨isKind, areKind⟩)

end Answers

theorem mapM_eq_error {ε α β : Type} {given : α → Except ε β} {failure : ε} {all : List α}
    (each : ∀ one ∈ all, Answers (fun _ => True) (given one) ∨ given one = .error failure)
    (fails : ∃ one ∈ all, given one = .error failure) : all.mapM given = .error failure := by
  induction all with
  | nil =>
    obtain ⟨one, among, -⟩ := fails
    cases among
  | cons one all ih =>
    rw [List.mapM_cons]
    obtain ⟨first, rest⟩ := List.forall_mem_cons.mp each
    rcases first with ⟨answer, answers, -⟩ | failed
    · have later : ∃ one ∈ all, given one = .error failure := by
        obtain ⟨other, among, failed⟩ := fails
        rcases List.mem_cons.mp among with rfl | among
        · cases answers.symm.trans failed
        · exact ⟨other, among, failed⟩
      rw [answers, ok_bind, ih rest later]
      rfl
    · rw [failed]
      rfl

def LookAlike {ε α β : Type} (look : α → β) (outcome outcome' : Except ε α) : Prop :=
  look <$> outcome = look <$> outcome'

namespace LookAlike

variable {ε α β γ δ : Type} {look : α → β} {look' : γ → δ}

theorem refl (outcome : Except ε α) : LookAlike look outcome outcome := rfl

theorem ok {answer answer' : α} (same : look answer = look answer') :
    LookAlike look (.ok answer : Except ε α) (.ok answer') := congrArg Except.ok same

theorem both {outcome outcome' : Except ε α} (alike : LookAlike look outcome outcome') :
    (∃ failure, outcome = .error failure ∧ outcome' = .error failure) ∨
      ∃ answer answer', outcome = .ok answer ∧ outcome' = .ok answer' ∧
        look answer = look answer' := by
  cases outcome with
  | error failure =>
    cases outcome' with
    | error failure' => exact .inl ⟨failure, rfl, congrArg _ (Except.error.inj alike).symm⟩
    | ok answer' => cases alike
  | ok answer =>
    cases outcome' with
    | error failure' => cases alike
    | ok answer' => exact .inr ⟨answer, answer', rfl, rfl, Except.ok.inj alike⟩

theorem bind_of_ok {outcome outcome' : Except ε α} {next next' : α → Except ε γ}
    (alike : LookAlike look outcome outcome')
    (goes : ∀ answer answer', outcome = .ok answer → outcome' = .ok answer' →
      look answer = look answer' → LookAlike look' (next answer) (next' answer')) :
    LookAlike look' (outcome >>= next) (outcome' >>= next') := by
  obtain ⟨failure, rfl, rfl⟩ | ⟨answer, answer', rfl, rfl, same⟩ := alike.both
  · exact refl (.error failure)
  · exact goes answer answer' rfl rfl same

theorem bind {outcome outcome' : Except ε α} {next next' : α → Except ε γ}
    (alike : LookAlike look outcome outcome')
    (goes : ∀ answer answer', look answer = look answer' →
      LookAlike look' (next answer) (next' answer')) :
    LookAlike look' (outcome >>= next) (outcome' >>= next') :=
  alike.bind_of_ok fun answer answer' _ _ same => goes answer answer' same

theorem bind_same (outcome : Except ε α) {next next' : α → Except ε γ}
    (goes : ∀ answer, LookAlike look' (next answer) (next' answer)) :
    LookAlike look' (outcome >>= next) (outcome >>= next') := by
  cases outcome with
  | error failure => rfl
  | ok answer => exact goes answer

theorem map {outcome outcome' : Except ε α} {change : α → γ}
    (alike : LookAlike look outcome outcome')
    (keeps : ∀ answer answer', look answer = look answer' →
      look' (change answer) = look' (change answer')) :
    LookAlike look' (change <$> outcome) (change <$> outcome') := by
  rw [map_eq_pure_bind, map_eq_pure_bind]
  exact alike.bind fun answer answer' same => .ok (keeps answer answer' same)

theorem mapM {ι : Type} {given given' : ι → Except ε α} {related : ι → ι → Prop}
    (alike : ∀ one other, related one other → LookAlike look (given one) (given' other))
    {all others : List ι} (pairs : List.Forall₂ related all others) :
    LookAlike (List.map look) (all.mapM given) (others.mapM given') := by
  induction pairs with
  | nil => exact refl _
  | cons pair _ ih =>
    rw [List.mapM_cons, List.mapM_cons]
    refine (alike _ _ pair).bind fun first first' same => ih.bind fun rest rest' same' => .ok ?_
    rw [List.map_cons, List.map_cons, same, same']

theorem mapM_same {ι : Type} {given given' : ι → Except ε α} {all : List ι}
    (alike : ∀ one, LookAlike look (given one) (given' one)) :
    LookAlike (List.map look) (all.mapM given) (all.mapM given') := by
  have pairs : List.Forall₂ (· = ·) all all := List.forall₂_same.mpr fun _ _ => rfl
  exact mapM (fun one other same => same ▸ alike one) pairs

theorem of_answers {seen : β} {outcome outcome' : Except ε α}
    (answers : Answers (look · = seen) outcome) (answers' : Answers (look · = seen) outcome') :
    LookAlike look outcome outcome' := by
  obtain ⟨answer, rfl, rfl⟩ := answers
  obtain ⟨answer', rfl, same⟩ := answers'
  exact .ok same.symm

end LookAlike

namespace Step

variable {σ α β : Type}

theorem bind_eq_ok {first : Step σ α} {next : α → Step σ β} {before after : σ} {answer : β} :
    (first >>= next) before = .ok answer after ↔
      ∃ middle between, first before = .ok middle between ∧
        next middle between = .ok answer after := by
  simp only [bind, EStateM.bind]
  cases first before <;> simp [and_assoc]

theorem pure_eq_ok {given answer : α} {before after : σ} :
    (pure given : Step σ α) before = .ok answer after ↔ given = answer ∧ before = after := by
  simp [pure, EStateM.pure]

theorem of_eq_ok {outcome : Except Failure α} {answer : α} {before after : σ} :
    Step.of outcome before = .ok answer after ↔ outcome = .ok answer ∧ before = after := by
  cases outcome with
  | error failure =>
    have thrown : Step.of (.error failure : Except Failure α) before = .error failure before := rfl
    simp [thrown]
  | ok given => simp [Step.of, Step.pure_eq_ok]

theorem of_ok_bind (answer : α) (next : α → Step σ β) :
    (Step.of (.ok answer) >>= next) = next answer := rfl

theorem of_map (change : α → β) (outcome : Except Failure α) :
    (Step.of (change <$> outcome) : Step σ β) =
      Step.of outcome >>= fun answer => pure (change answer) := by
  cases outcome <;> rfl

theorem get_bind (next : σ → Step σ α) (before : σ) :
    (get >>= next) before = next before before := rfl

theorem modify_bind (change : σ → σ) (next : Unit → Step σ α) (before : σ) :
    (modify change >>= next) before = next () (change before) := rfl

end Step

theorem Walk.visiting_eq_ok {σ α : Type} {step : Step σ α} {before after : Progress σ}
    {answer : α} : Walk.visiting step before = .ok answer after ↔
      step before.kept = .ok answer after.kept ∧ after.budget = before.budget := by
  obtain ⟨budget, kept⟩ := after
  unfold Walk.visiting
  cases step before.kept with
  | error failure found => simp
  | ok given found =>
    simp only [EStateM.Result.ok.injEq, Progress.mk.injEq]
    constructor
    · rintro ⟨rfl, rfl, rfl⟩
      exact ⟨⟨rfl, rfl⟩, rfl⟩
    · rintro ⟨⟨rfl, rfl⟩, rfl⟩
      exact ⟨rfl, rfl, rfl⟩

end TreeTable

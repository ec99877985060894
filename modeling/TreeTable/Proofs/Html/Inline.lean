import TreeTable.Proofs.Html.Table

namespace TreeTable.Html.Inline

open Render Walk

variable {ν : Type}

def pieces (config : Config) (delegate : Delegate) (source : Source ν) :
    Act ν → Except Failure (List String)
  | .row row _ => do
    let item ← decoratedText config delegate source row.parent (.int row.number)
      config.displayedColumn
    let front ← config.constantPrefix.asText
    return [front ++ item]
  | _ => .ok []

def finish (config : Config) (items : List String) : Except Failure Value :=
  if items.isEmpty then .ok config.emptyPlaceholder
  else Value.text <$> (config.separator.getD (.text defaultSeparator)).join (items.map .text)

theorem cells_visit (config : Config) (delegate : Delegate) (source : Source ν) (row : Row ν)
    (column left : Nat) :
    cells (visit config delegate source) row.parent row.number row.depth column left = pure () := by
  induction left generalizing column with
  | zero => rfl
  | succ left ih =>
    rw [cells, ih]
    rfl

theorem addsActs (config : Config) (delegate : Delegate) (source : Source ν) :
    AddsActs (visit config delegate source) (pieces config delegate source) := by
  intro act
  cases act with
  | enter | close | leave => exact adds_nothing
  | row row columns =>
    have begun : Adds (visit config delegate source
        (.beginRow row.parent row.number row.depth))
          (pieces config delegate source (.row row columns)) := by
      unfold visit pieces
      exact (tells_decorated _ _ _ _ _ _).andThen fun item =>
        (tells_of _).andThen fun front => adds_write _
    have steps : (Act.row row columns).perform (visit config delegate source) =
        visit config delegate source (.beginRow row.parent row.number row.depth) := by
      simp only [Act.perform, cells_visit, pure_bind]
      exact bind_pure _
    rw [steps]
    exact begun

theorem render_eq (config : Config) (delegate : Delegate) (source : Source ν) :
    render config delegate source =
      walkAll config source (visit config delegate source) false none >>= fun _ =>
        written >>= fun items => Step.of (finish config items) := by
  unfold render
  refine congrArg (_ >>= ·) (funext fun _ => congrArg (written >>= ·) (funext fun items => ?_))
  unfold finish
  cases items.isEmpty with
  | true => rfl
  | false => exact (Step.of_map Value.text _).symm

theorem outcome_comes (config : Config) (delegate : Delegate) (source : Source ν)
    (refusal : Nat → Option Failure) :
    UnlessRefused refusal
      ((⟨.htmlSet, config, delegate⟩ : Serializer).rendering refusal source).outcome
      (actByAct config source (pieces config delegate source) false none
        fun _ => finish config) := by
  have rendered : ((⟨.htmlSet, config, delegate⟩ : Serializer).rendering refusal source).outcome =
      id <$> answer refusal (render config delegate source) :=
    Serializer.outcome_of_uncapped rfl refusal
  rw [rendered, id_map, render_eq]
  exact answer_acts (addsActs config delegate source) config source false none _ _
    (fun _ _ => rfl) refusal

end TreeTable.Html.Inline

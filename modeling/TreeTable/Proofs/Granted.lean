import TreeTable.Content
import TreeTable.Proofs.Asked
import TreeTable.Proofs.Csv.Table
import TreeTable.Proofs.Html.Inline
import TreeTable.Proofs.Html.Table

namespace TreeTable

variable {ν α β : Type}

open Render

namespace Csv.Writer

theorem heeds_visit (writer : Writer) (source : Source ν) (event : Event ν) :
    HeedsAsked (writer.visit source event) := by
  cases event with
  | beginRow =>
    exact .bind .clearCells fun _ => .ite (.bind (.of _) fun _ => .bind (.of _) fun _ => .addCell _)
      (.pure _)
  | cell => exact .bind (.ask ..) fun _ => .bind (.of _) fun _ => .addCell _
  | endRow => exact .bind .rowCells fun _ => .bind (.of _) fun _ => .write _
  | beginLevel | closeRow | endLevel => exact .pure _

theorem heeds_render (writer : Writer) (source : Source ν) :
    HeedsAsked (writer.render source) := by
  rw [render_eq]
  exact .bind (.of _) fun _ =>
    .bind (.walkAll (writer.heeds_visit source) ..) fun _ => .bind .written fun _ => .pure _

end Csv.Writer

namespace Html

variable (config : Config) (delegate : Delegate) (source : Source ν)

theorem heeds_decorated (parent : Option ν) (row column : Value) :
    HeedsAsked (decorated config delegate source parent row column) := by
  refine .bind (.of _) fun node => .bind (.ask ..) fun text => .bind (.of _) fun address => ?_
  have markup : ∀ className, HeedsAsked
      (Step.of (role source node config.htmlPrefixRole) >>= fun markup =>
        pure (markup ++ linked text address className)) := fun _ => .bind (.of _) fun _ => .pure _
  exact .ite (.bind (.pure _) markup) (.bind (.of _) markup)

theorem Inline.heeds_render : HeedsAsked (render config delegate source) := by
  refine .bind (.walkAll (fun event => ?_) ..) fun _ => .bind .written fun _ =>
    .ite (.pure _) (.bind (.of _) fun _ => .pure _)
  cases event with
  | beginRow =>
    exact .bind (heeds_decorated ..) fun _ => .bind (.of _) fun _ => .write _
  | beginLevel | cell | endRow | closeRow | endLevel => exact .pure _

theorem Outline.heeds_render : HeedsAsked (render config delegate source) := by
  refine .bind (.walkAll (fun event => ?_) ..) fun _ => .bind .written fun _ => .pure _
  cases event with
  | beginLevel | endLevel => exact .ite (.write _) (.pure _)
  | beginRow => exact .clearCells
  | cell => exact .bind (.ask ..) fun _ => .addCell _
  | endRow => exact .bind .rowCells fun _ => .write _
  | closeRow => exact .write _

theorem Table.heeds_visit (event : Event ν) : HeedsAsked (visit config delegate source event) := by
  cases event with
  | beginRow =>
    exact .bind (.of _) fun _ => .bind (.of _) fun _ => .bind (.write _) fun _ =>
      .ite (.bind (.of _) fun _ => .write _) (.pure _)
  | cell =>
    exact .bind (.of _) fun _ => .bind (.of _) fun _ => .bind (heeds_decorated ..) fun _ =>
      .write _
  | endRow => exact .write _
  | beginLevel | closeRow | endLevel => exact .pure _

theorem Table.heeds_render : HeedsAsked (render config delegate source) := by
  rw [render_eq]
  refine .bind (.of _) fun columns => .bind (.of _) fun opening => .bind (.of _) fun rows =>
    .ite (.pure _) ?_
  have body : HeedsAsked (body config delegate source) := .bind (.of _) fun _ =>
    .bind (.walkAll (heeds_visit config delegate source) ..) fun _ => .pure _
  exact body.bind fun _ => .bind .written fun _ => .pure _

end Html

namespace Serializer

theorem heeds_render (serializer : Serializer) (source : Source ν) :
    HeedsAsked (serializer.render source) := by
  unfold render
  cases serializer.format with
  | csv | csvTree =>
    exact .bind (.of _) fun writer => .bind (writer.heeds_render source) fun _ => .pure _
  | htmlSet => exact .bind (Html.Inline.heeds_render ..) fun _ => .pure _
  | htmlList => exact .bind (Html.Outline.heeds_render ..) fun _ => .pure _
  | htmlTable => exact .bind (Html.Table.heeds_render ..) fun _ => .pure _

/-- A rendering that is not refused what it asks for is the one that is refused nothing. -/
theorem rendering_of_granted {serializer : Serializer} {source : Source ν}
    {refusal : Nat → Option Failure}
    (granted : Grants refusal 0 (serializer.rendering refusal source).asked) :
    serializer.rendering refusal source = serializer.rendering (fun _ => none) source := by
  have asked : (serializer.rendering refusal source).asked =
      (ended (serializer.render source { refusal })).asked := by
    unfold rendering
    cases serializer.render source { refusal } <;> rfl
  rw [asked] at granted
  have same := (serializer.heeds_render source).eq_withRefusal_of_granted granted
  unfold rendering
  rw [same]
  cases serializer.render source { refusal } <;> rfl

theorem serialize_of_granted {serializer : Serializer} {content : Option Content}
    {refusal : Nat → Option Failure}
    (granted : Grants refusal 0 (serializer.serialize content refusal).asked) :
    serializer.serialize content refusal = serializer.serialize content := by
  cases content with
  | none => rfl
  | some content => cases content <;> exact rendering_of_granted granted

end Serializer

end TreeTable

import TreeTable.Source.Document
import TreeTable.Source.Matrix
import TreeTable.Serializer

namespace TreeTable

inductive Content where
  | tree (data : Tree) (faults : Option Faults)
  | matrix (data : Matrix)

namespace Content

def query {α : Type} (content : Content) (ask : {ν : Type} → Source ν → α) : α :=
  match content with
  | .tree data faults => ask (data.faultySource (faults.getD {}))
  | .matrix data => ask data.source

def title : Content → String
  | .tree .. => "TreeSource"
  | .matrix _ => "MatrixSource"

end Content

namespace Serializer

def serialize (serializer : Serializer) (content : Option Content)
    (refusal : Nat → Option Failure := fun _ => none) : Rendering :=
  match content with
  | none => ⟨.ok (.text ""), 0, none⟩
  | some content => content.query fun source => serializer.rendering refusal source

end Serializer

end TreeTable

import TreeTable.Source.Tree

namespace TreeTable

/-- A row and the rows below it, as a reader sees them. -/
inductive Node where
  | mk (texts : List String) (children : List Node)

namespace Node

mutual

def lines (depth : Nat) : Node → List (Nat × List String)
  | ⟨texts, children⟩ => (depth, texts) :: linesOf (depth + 1) children

def linesOf (depth : Nat) : List Node → List (Nat × List String)
  | [] => []
  | node :: rest => node.lines depth ++ linesOf depth rest

end

def graft (line : Nat × List String) (grown : List (Nat × Node)) : List (Nat × Node) :=
  let isBelow (other : Nat × Node) : Bool := line.1 < other.1
  (line.1, ⟨line.2, (grown.takeWhile isBelow).map Prod.snd⟩) :: grown.dropWhile isBelow

def regrow (lines : List (Nat × List String)) : List Node := (lines.foldr graft []).map Prod.snd

theorem graft_children (depth : Nat) (texts : List String) (children : List Node)
    {grown : List (Nat × Node)} (outside : ∀ other ∈ grown.head?, other.1 ≤ depth) :
    graft (depth, texts) (children.map (depth + 1, ·) ++ grown) =
      (depth, ⟨texts, children⟩) :: grown := by
  have below : ∀ other ∈ children.map ((depth + 1, ·) : Node → Nat × Node),
      decide (depth < other.1) = true := by
    simp
  have notBelow : grown.takeWhile (fun other => decide (depth < other.1)) = [] ∧
      grown.dropWhile (fun other => decide (depth < other.1)) = grown := by
    cases grown with
    | nil => exact ⟨rfl, rfl⟩
    | cons other rest =>
      have outside := outside other rfl
      have notDeeper : decide (depth < other.1) = false := by simpa using outside
      exact ⟨List.takeWhile_cons_of_neg (by simp [notDeeper]),
        List.dropWhile_cons_of_neg (by simp [notDeeper])⟩
  rw [graft, List.takeWhile_append_of_pos below, List.dropWhile_append_of_pos below, notBelow.1,
    notBelow.2]
  simp [List.map_map, Function.comp_def]

mutual

theorem foldr_graft_lines (depth : Nat) {grown : List (Nat × Node)}
    (outside : ∀ other ∈ grown.head?, other.1 ≤ depth) :
    (node : Node) → (node.lines depth).foldr graft grown = (depth, node) :: grown
  | ⟨texts, children⟩ => by
    have outside' : ∀ other ∈ grown.head?, other.1 ≤ depth + 1 :=
      fun other first => Nat.le_succ_of_le (outside other first)
    rw [lines, List.foldr_cons, foldr_graft_linesOf (depth + 1) outside' children,
      graft_children depth texts children outside]

theorem foldr_graft_linesOf (depth : Nat) {grown : List (Nat × Node)}
    (outside : ∀ other ∈ grown.head?, other.1 ≤ depth) :
    (forest : List Node) →
      (linesOf depth forest).foldr graft grown = forest.map (depth, ·) ++ grown
  | [] => rfl
  | node :: rest => by
    -- the fold comes from the right: the rest has grown before the first node is put in front
    rw [linesOf, List.foldr_append, foldr_graft_linesOf depth outside rest]
    refine foldr_graft_lines depth (fun other first => ?_) node
    cases rest with
    | nil => exact outside other first
    | cons node' rest =>
      obtain rfl := Option.some.inj first
      exact Nat.le_refl depth

end

theorem regrow_linesOf (forest : List Node) : regrow (linesOf 0 forest) = forest := by
  have nothing : ∀ other ∈ ([] : List (Nat × Node)).head?, other.1 ≤ 0 := by simp
  rw [regrow, foldr_graft_linesOf 0 nothing forest]
  simp [List.map_map, Function.comp_def]

end Node

namespace Item

def texts (columns : Nat) (item : Item) : List String :=
  (List.range columns).map fun column => ((item.values[column]?).map Value.cellText).getD ""

mutual

def node (columns : Nat) : Item → Node
  | ⟨values, children, roles⟩ =>
    ⟨texts columns ⟨values, children, roles⟩, nodes columns children⟩

def nodes (columns : Nat) : List Item → List Node
  | [] => []
  | item :: rest => node columns item :: nodes columns rest

end

end Item

def Tree.forest (tree : Tree) : List Node := Item.nodes tree.headers.size tree.items

end TreeTable

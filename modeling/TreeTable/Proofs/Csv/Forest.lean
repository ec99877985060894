import TreeTable.Content
import TreeTable.Proofs.Csv.Records
import TreeTable.Proofs.Forest
import TreeTable.Proofs.Tree
import TreeTable.Proofs.Walk.TreeScript

/-!
Nested tables of delimited text keep the whole forest: the spaces in front of the first field tell
the depth of a row, and the depths tell which rows are below which.
-/

namespace TreeTable.Csv

def indented : Nat × List String → List String
  | (_, []) => []
  | (depth, first :: rest) => (String.ofList (List.replicate depth ' ') ++ first) :: rest

def outdent : List String → Nat × List String
  | [] => (0, [])
  | first :: rest =>
    ((first.toList.takeWhile (· == ' ')).length,
      String.ofList (first.toList.dropWhile (· == ' ')) :: rest)

def cellsOf (rowHeaders : Bool) (record : List String) : List String :=
  if rowHeaders then record.drop 1 else record

/-- The forest in a text, for a reader who knows the dialect and which headers are shown. -/
def Dialect.readForest (dialect : Dialect) (columnHeaders rowHeaders : Bool) (text : String) :
    List Node :=
  let records := dialect.read text
  let rows := if columnHeaders then records.drop 1 else records
  Node.regrow (rows.map fun record => outdent (cellsOf rowHeaders record))

theorem outdent_indented (depth : Nat) {first : String} (flush : first.toList.head? ≠ some ' ')
    (rest : List String) : outdent (indented (depth, first :: rest)) = (depth, first :: rest) := by
  have spaces : ∀ c ∈ List.replicate depth ' ', (c == ' ') = true := by
    intro c within
    rw [List.eq_of_mem_replicate within, beq_self_eq_true]
  have notSpace : first.toList.takeWhile (· == ' ') = [] ∧
      first.toList.dropWhile (· == ' ') = first.toList := by
    cases chars : first.toList with
    | nil => exact ⟨rfl, rfl⟩
    | cons c chars' =>
      have other : ¬(c == ' ') = true := by
        intro space
        rw [chars] at flush
        exact flush (congrArg some (eq_of_beq space))
      exact ⟨List.takeWhile_cons_of_neg other, List.dropWhile_cons_of_neg other⟩
  rw [indented, outdent, String.toList_append, String.toList_ofList,
    List.takeWhile_append_of_pos spaces, List.dropWhile_append_of_pos spaces, notSpace.1,
    notSpace.2, List.append_nil, List.length_replicate, String.ofList_toList]

variable {tree : Tree}

theorem headerText_row_eq (tree : Tree) (row : Nat) :
    ∃ text, Delegate.plain.headerText tree.source .row (.int row) = .ok (.text text) := by
  have header := tree.header_eq .row row
  cases found : (tree.headerNames .row)[row]? with
  | none =>
    refine ⟨"", ?_⟩
    rw [found] at header
    rw [Delegate.headerText, Source.headerShown, header]
    rfl
  | some text =>
    refine ⟨text, ?_⟩
    rw [found] at header
    rw [Delegate.headerText, Source.headerShown, header]
    rfl

theorem indented_texts {columns : Nat} (wide : 0 < columns) (depth : Nat) (item : Item) :
    indented (depth, item.texts columns) = (List.range columns).map fun column =>
      (if true && column == 0 then String.ofList (List.replicate depth ' ') else "") ++
        ((item.values[column]?).map Value.cellText).getD "" := by
  obtain ⟨more, rfl⟩ := Nat.exists_eq_add_one.mpr wide
  simp [Item.texts, List.range_succ_eq_map, indented, Function.comp_def]

theorem width_eq (wide : 0 < tree.headers.size) (rows : List Item) :
    tree.width rows = tree.headers.size := by
  have nonempty : tree.headers.isEmpty = false := by
    simp only [Array.isEmpty, decide_eq_false_iff_not]
    omega
  rw [Tree.width, nonempty, if_neg Bool.false_ne_true]

theorem cellText_eq (parent : Option TreeCell) {row : Nat} {item : Item}
    (found : (tree.level false parent)[row]? = some item) (depth : Int) (column : Nat) :
    cellText .plain tree.source true ⟨parent, row, depth⟩ column =
      .ok ((if true && column == 0 then String.ofList (List.replicate depth.toNat ' ') else "") ++
        ((item.values[column]?).map Value.cellText).getD "") := by
  have shown : Delegate.plain.text tree.source parent (.int row) (.int column) =
      .ok (((item.values[column]?).map Value.cellText).getD "") := by
    rw [Delegate.text, Tree.shown_eq parent found]
  rw [cellText, shown]
  rfl

theorem cellsOf_rowTexts (wide : 0 < tree.headers.size) (config : Config)
    (parent : Option TreeCell) {row : Nat} {item : Item}
    (found : (tree.level false parent)[row]? = some item) (depth : Nat) :
    cellsOf config.rowHeaders <$> rowTexts config .plain tree.source true ⟨parent, row, depth⟩ =
      .ok (indented (depth, item.texts tree.headers.size)) := by
  have cells : (List.range tree.headers.size).mapM
      (cellText .plain tree.source true ⟨parent, row, depth⟩) =
        .ok (indented (depth, item.texts tree.headers.size)) := by
    rw [indented_texts wide, funext (cellText_eq parent found depth)]
    exact List.mapM_pure
  obtain ⟨header, headed⟩ := headerText_row_eq tree row
  rw [rowTexts, Walk.columns_eq, width_eq wide, ok_bind, cells]
  cases config.rowHeaders with
  | false => rfl
  | true =>
    rw [if_pos rfl, headed]
    rfl

mutual

theorem mapM_placesBelow (wide : 0 < tree.headers.size) (config : Config) (depth : Nat) :
    (item : Item) → ((item.placesBelow depth).map RowPlace.asRow).mapM
        (fun row => cellsOf config.rowHeaders <$> rowTexts config .plain tree.source true row) =
      .ok ((Node.linesOf depth (Item.nodes tree.headers.size item.children)).map indented)
  | ⟨values, children, roles⟩ => by
    rw [Item.placesBelow]
    exact mapM_placesOf wide config (some ⟨⟨values, children, roles⟩, .int 0⟩) 0 depth children rfl

theorem mapM_placesOf (wide : 0 < tree.headers.size) (config : Config)
    (parent : Option TreeCell) (row depth : Nat) :
    (items : List Item) → (tree.level false parent).drop row = items →
      ((Item.placesOf true parent row depth items).map RowPlace.asRow).mapM
        (fun row => cellsOf config.rowHeaders <$> rowTexts config .plain tree.source true row) =
      .ok ((Node.linesOf depth (Item.nodes tree.headers.size items)).map indented)
  | [], _ => rfl
  | ⟨values, children, roles⟩ :: rest, suffix => by
    obtain ⟨found, suffix'⟩ := Walk.of_drop_eq_cons suffix
    have first : cellsOf config.rowHeaders <$> rowTexts config .plain tree.source true
        (RowPlace.asRow ⟨parent, row, depth⟩) = .ok (indented (depth,
          Item.texts tree.headers.size ⟨values, children, roles⟩)) :=
      cellsOf_rowTexts wide config parent found depth
    have below := mapM_placesBelow wide config (depth + 1) ⟨values, children, roles⟩
    have others := mapM_placesOf wide config parent (row + 1) depth rest suffix'
    have deeper : ((depth + 1 : Nat) : Int) = depth + 1 := Int.natCast_succ depth
    rw [deeper] at below
    rw [Item.placesOf, if_pos rfl, List.map_cons, List.map_append, List.mapM_cons, List.mapM_append,
      first, below, others, Item.nodes, Item.node, Node.linesOf, Node.lines, List.cons_append,
      List.map_cons, List.map_append]
    rfl

end

mutual

theorem length_texts_lines (columns depth : Nat) : (item : Item) →
    ∀ line ∈ (item.node columns).lines depth, line.2.length = columns
  | ⟨values, children, roles⟩ => by
    rw [Item.node, Node.lines]
    intro line among
    rcases List.mem_cons.mp among with rfl | below
    · simp [Item.texts]
    · exact length_texts_linesOf columns (depth + 1) children line below

theorem length_texts_linesOf (columns depth : Nat) : (items : List Item) →
    ∀ line ∈ Node.linesOf depth (Item.nodes columns items), line.2.length = columns
  | [] => by simp [Item.nodes, Node.linesOf]
  | item :: rest => by
    rw [Item.nodes, Node.linesOf]
    intro line among
    rcases List.mem_append.mp among with first | more
    · exact length_texts_lines columns depth item line first
    · exact length_texts_linesOf columns depth rest line more

end

def FlushLeft (tree : Tree) : Prop :=
  ∀ line ∈ Node.linesOf 0 tree.forest, ∀ first ∈ line.2.head?, first.toList.head? ≠ some ' '

theorem outdent_lines (wide : 0 < tree.headers.size) (flush : FlushLeft tree) :
    ((Node.linesOf 0 tree.forest).map indented).map outdent = Node.linesOf 0 tree.forest := by
  rw [List.map_map]
  refine (List.map_congr_left fun line among => ?_).trans (List.map_id _)
  have length := length_texts_linesOf tree.headers.size 0 tree.items line among
  have flush := flush line among
  obtain ⟨depth, texts⟩ := line
  cases texts with
  | nil =>
    rw [List.length_nil] at length
    omega
  | cons first rest => exact outdent_indented depth (flush first rfl) rest

theorem headerTexts_ne_nil (wide : 0 < tree.headers.size) {config : Config} {delegate : Delegate}
    {texts : List String} (told : headerTexts config delegate tree.source = .ok texts) :
    texts ≠ [] := by
  have columns : tree.source.columnCount none = .ok (tree.headers.size : Int) := by
    rw [← width_eq wide tree.items]
    rfl
  obtain ⟨corner, -, told⟩ := bind_eq_ok.mp told
  rw [columns, ok_bind, Int.toNat_natCast] at told
  obtain ⟨shown, mapped, told⟩ := bind_eq_ok.mp told
  obtain rfl := pure_eq_ok.mp told
  obtain ⟨more, count⟩ := Nat.exists_eq_add_one.mpr wide
  rw [count, List.range_succ_eq_map, List.mapM_cons] at mapped
  obtain ⟨text, -, mapped⟩ := bind_eq_ok.mp mapped
  obtain ⟨others, -, mapped⟩ := bind_eq_ok.mp mapped
  obtain rfl := pure_eq_ok.mp mapped
  simp

theorem indented_ne_nil {line : Nat × List String} (nonempty : line.2 ≠ []) :
    indented line ≠ [] := by
  obtain ⟨depth, texts⟩ := line
  cases texts with
  | nil => exact absurd rfl nonempty
  | cons first rest => simp [indented]

theorem cells_of_records (wide : 0 < tree.headers.size) {config : Config}
    {all : List (List String)} (told : records config .plain tree.source true = .ok all) :
    (if config.columnHeaders then all.drop 1 else all).map (cellsOf config.rowHeaders) =
      (Node.linesOf 0 tree.forest).map indented ∧ ∀ record ∈ all, record ≠ [] := by
  obtain ⟨first, headed, told⟩ := bind_eq_ok.mp told
  obtain ⟨deepest, -, told⟩ := bind_eq_ok.mp told
  obtain ⟨rows, visited, told⟩ := bind_eq_ok.mp told
  obtain ⟨lines, mapped, told⟩ := bind_eq_ok.mp told
  obtain rfl := pure_eq_ok.mp told
  obtain rfl := Walk.visited_tree visited
  have cells : lines.map (cellsOf config.rowHeaders) =
      (Node.linesOf 0 tree.forest).map indented := by
    have all := mapM_placesOf wide config none 0 0 tree.items rfl
    rw [mapM_map (fun _ => rfl), map_eq_ok] at all
    obtain ⟨lines', mapped', cells⟩ := all
    obtain rfl := Except.ok.inj (mapped.symm.trans mapped')
    exact cells
  -- there is a first column, and so a field in each line
  have nonempty : ∀ record ∈ lines, record ≠ [] := by
    rintro record among rfl
    have cell : cellsOf config.rowHeaders [] ∈ (Node.linesOf 0 tree.forest).map indented :=
      cells ▸ List.mem_map_of_mem among
    obtain ⟨line, among, same⟩ := List.mem_map.mp cell
    have length := length_texts_linesOf tree.headers.size 0 tree.items line among
    have filled : line.2 ≠ [] := List.ne_nil_of_length_pos (length ▸ wide)
    refine indented_ne_nil filled (same.trans ?_)
    cases config.rowHeaders <;> rfl
  unfold headerRecords at headed
  cases shown : config.columnHeaders with
  | false =>
    rw [shown] at headed
    obtain rfl := Except.ok.inj headed
    exact ⟨cells, nonempty⟩
  | true =>
    rw [shown, if_pos rfl] at headed
    obtain ⟨texts, answered, single⟩ := bind_eq_ok.mp headed
    obtain rfl := pure_eq_ok.mp single
    refine ⟨cells, fun record among => ?_⟩
    rcases List.mem_cons.mp among with rfl | more
    · exact headerTexts_ne_nil wide answered
    · exact nonempty record more

theorem readForest_of_output {dialect : Dialect} {config : Config}
    (describes : dialect.Describes config) (clear : dialect.Clear)
    (escapes : dialect.escape.isSome) (corner : ∃ text, config.topLeftHeader = .text text)
    (wide : 0 < tree.headers.size) (flush : FlushLeft tree) {text : String}
    (returns : output config .plain tree.source true = .ok (.text text)) :
    dialect.readForest config.columnHeaders config.rowHeaders text = tree.forest := by
  obtain ⟨all, told, read⟩ := read_of_output describes clear escapes corner
    (hasTextHeaders_tree tree) returns
  obtain ⟨cells, nonempty⟩ := cells_of_records wide told
  have lines : ((if config.columnHeaders then all.drop 1 else all).map
      fun record => outdent (cellsOf config.rowHeaders record)) = Node.linesOf 0 tree.forest := by
    rw [← outdent_lines wide flush, ← cells, List.map_map]
    rfl
  rw [Dialect.readForest, read fun _ => nonempty, lines, Node.regrow_linesOf]

/-- Who knows the dialect and which headers are shown reads the whole forest from a nested table of
a tree, unless a text in the first column begins with a space. So no other forest is written the
same. -/
theorem readForest_rendering {dialect : Dialect} {config : Config}
    (describes : dialect.Describes config) (clear : dialect.Clear)
    (escapes : dialect.escape.isSome) (corner : ∃ text, config.topLeftHeader = .text text)
    {tree : Tree} (wide : 0 < tree.headers.size) (flush : FlushLeft tree)
    {refusal : Nat → Option Failure} {text : String}
    (returns : ((⟨.csvTree, config, .plain⟩ : Serializer).serialize (some (.tree tree none))
      refusal).outcome = .ok (.text text)) :
    dialect.readForest config.columnHeaders config.rowHeaders text = tree.forest ∧
      ∀ other : Tree, 0 < other.headers.size → FlushLeft other → ∀ refusal',
        ((⟨.csvTree, config, .plain⟩ : Serializer).serialize (some (.tree other none))
          refusal').outcome = .ok (.text text) → other.forest = tree.forest := by
  have read := readForest_of_output describes clear escapes corner wide flush
    ((rendering_comes config .plain tree.source true refusal).2 _ returns)
  refine ⟨read, fun other wide' flush' refusal' same => ?_⟩
  rw [← read]
  exact (readForest_of_output describes clear escapes corner wide' flush'
    ((rendering_comes config .plain other.source true refusal').2 _ same)).symm

def commas : Dialect where
  quote := none
  escape := some ['\\']
  separator := [',', ' ']
  terminator := ['\n']

def escapedCommas : Config where
  rowHeaders := true
  separator := some (.text ", ")
  escapeChar := some (.text "\\")

def nestedRows : Tree where
  headers := #["N"]
  items := [⟨#[.text "a"], [⟨#[.text ","], [], []⟩], []⟩, ⟨#[], [], []⟩]

theorem readForest_nestedRows :
    commas.readForest true true ", N\n, a\n, \\ \\,\n, \n" =
      [⟨["a"], [⟨[","], []⟩]⟩, ⟨[""], []⟩] := by
  have describes : commas.Describes escapedCommas := ⟨rfl, rfl, rfl, rfl⟩
  have clear : commas.Clear := by
    refine ⟨⟨by decide, by decide⟩, (fun quote quotes => nomatch quotes), ?_,
      (fun quoted => nomatch quoted)⟩
    intro _ escape escapes
    obtain rfl := Option.some.inj escapes
    exact ⟨⟨by decide, by decide⟩, by decide, by decide⟩
  have flush : FlushLeft nestedRows := by
    unfold FlushLeft
    decide
  have returns : ((⟨.csvTree, escapedCommas, .plain⟩ : Serializer).serialize
      (some (.tree nestedRows none))).outcome = .ok (.text ", N\n, a\n, \\ \\,\n, \n") := rfl
  exact (readForest_rendering describes clear rfl ⟨"", rfl⟩ (by decide) flush returns).1

end TreeTable.Csv

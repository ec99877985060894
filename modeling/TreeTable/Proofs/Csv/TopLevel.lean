import Mathlib.Data.List.Flatten
import TreeTable.Proofs.Asked
import TreeTable.Proofs.Csv.Table
import TreeTable.Proofs.Walk.TreeScript

namespace TreeTable

open Render Walk

def RowPlace.isTop (place : RowPlace) : Bool := place.parent.isNone

namespace Item

mutual

theorem filter_isTop_placesBelow (depth : Int) :
    (item : Item) → (placesBelow depth item).filter RowPlace.isTop = []
  | ⟨values, children, roles⟩ => by
    rw [placesBelow]
    exact filter_isTop_placesOf_some ⟨⟨values, children, roles⟩, .int 0⟩ 0 depth children

theorem filter_isTop_placesOf_some (parent : TreeCell) (row : Nat) (depth : Int) :
    (items : List Item) →
      (placesOf true (some parent) row depth items).filter RowPlace.isTop = []
  | [] => rfl
  | item :: rest => by
    rw [placesOf, if_pos rfl, List.filter_cons_of_neg Bool.false_ne_true,
      List.filter_append, filter_isTop_placesBelow, filter_isTop_placesOf_some parent]
    rfl

end

theorem filter_isTop_placesOf_none (row : Nat) (depth : Int) (items : List Item) :
    (placesOf true none row depth items).filter RowPlace.isTop =
      placesOf false none row depth items := by
  induction items generalizing row with
  | nil => rfl
  | cons item rest ih =>
    rw [placesOf, placesOf, if_pos rfl, if_neg Bool.false_ne_true, List.filter_cons_of_pos rfl,
      List.filter_append, filter_isTop_placesBelow, ih]

theorem depth_of_mem_placesOf_flat {parent : Option TreeCell} {row : Nat} {depth : Int}
    {items : List Item} : ∀ place ∈ placesOf false parent row depth items, place.depth = depth := by
  induction items generalizing row with
  | nil => exact nofun
  | cons item rest ih =>
    rw [placesOf, if_neg Bool.false_ne_true, List.nil_append, List.forall_mem_cons]
    exact ⟨rfl, ih⟩

theorem placesOf_of_leaves {parent : Option TreeCell} {row : Nat} {depth : Int}
    {items : List Item} (leaves : ∀ item ∈ items, item.children = []) :
    placesOf true parent row depth items = placesOf false parent row depth items := by
  induction items generalizing row with
  | nil => rfl
  | cons item rest ih =>
    obtain ⟨first, others⟩ := List.forall_mem_cons.mp leaves
    rw [placesOf, placesOf, if_pos rfl, if_neg Bool.false_ne_true, placesBelow_eq, first, ih others]
    rfl

end Item

theorem Tree.filter_isTop_preorder (tree : Tree) :
    (tree.preorder true none 0).filter RowPlace.isTop = tree.preorder false none 0 :=
  Item.filter_isTop_placesOf_none 0 0 tree.items

namespace Walk

theorem script_flat (tree : Tree) {deepest : Int} (enters : 0 ≤ deepest) :
    (script tree.source none 0 false deepest none).rows =
        (tree.preorder false none 0).map RowPlace.asRow ∧
      (script tree.source none 0 false deepest none).ends = .ok none := by
  obtain ⟨rows, ends⟩ := script_covers tree none enters false none
  have goes : ((tree.preorder false none 0).take
      (room none (tree.preorder false none 0).length)).any (isDeep false deepest) = false :=
    List.any_eq_false.mpr fun _ _ => Bool.false_ne_true
  rw [upTo_of_any_eq_false goes] at rows
  rw [goes, if_neg Bool.false_ne_true] at ends
  refine ⟨rows.trans ?_, ends⟩
  rw [room, List.take_length]

theorem script_of_returns {tree : Tree} {recursive : Bool} {deepest : Int} {left : Option Budget}
    (ends : (script tree.source none 0 recursive deepest none).ends = .ok left) :
    0 ≤ deepest ∧ (script tree.source none 0 recursive deepest none).rows =
      (tree.preorder recursive none 0).map RowPlace.asRow := by
  constructor
  · by_contra below
    rw [script_of_lt tree.source none (Int.not_le.mp below)] at ends
    cases ends
  · have visited := visited_eq_script tree.source recursive deepest
    rw [ends, ok_bind] at visited
    exact visited_tree visited

end Walk

def Walk.Act.columns {ν : Type} : Walk.Act ν → List Nat
  | .row _ columns => List.range columns
  | _ => []

namespace Csv

structure Lines where
  header : String
  rows : List (RowPlace × String)

namespace Lines

def text (lines : Lines) : String := lines.header ++ String.join (lines.rows.map Prod.snd)

def topLevel (lines : Lines) : Lines :=
  { lines with rows := lines.rows.filter fun line => line.1.isTop }

end Lines

def Writer.linesOf (writer : Writer) (tree : Tree) : Except Failure Lines := do
  let header ← writer.head tree.source
  let rows ← (tree.preorder writer.nested none 0).mapM fun place =>
    Prod.mk place <$> writer.rowLine tree.source place.asRow
  return { header, rows }

def linesOf (config : Config) (delegate : Delegate) (tree : Tree) (nested : Bool) :
    Except Failure Lines := do
  (← Writer.ofConfig config delegate nested).linesOf tree

namespace Writer

variable (writer : Writer) (tree : Tree)

def flat : Writer := { writer with nested := false }

theorem rowLine_flat {ν : Type} (source : Source ν) {row : Row ν} (top : row.depth = 0) :
    writer.flat.rowLine source row = writer.rowLine source row := by
  have indent : ∀ column, writer.flat.indent column row.depth = writer.indent column row.depth := by
    intro column
    have none : String.ofList (List.replicate (0 : Int).toNat ' ') = "" := rfl
    rw [Writer.indent, Writer.indent, top, none, ite_self, ite_self]
  have cell : writer.flat.cellField source row = writer.cellField source row := by
    funext column
    rw [cellField, cellField, indent]
    rfl
  rw [rowLine, rowLine, rowFields, rowFields, cell]
  rfl

theorem headerFields_flat {ν : Type} (source : Source ν) (column left : Nat) :
    writer.flat.headerFields source column left = writer.headerFields source column left := by
  induction left generalizing column with
  | zero => rfl
  | succ left ih =>
    rw [headerFields, headerFields, ih]
    rfl

theorem head_flat {ν : Type} (source : Source ν) :
    writer.flat.head source = writer.head source := by
  simp only [head, headerLine, headerFields_flat]
  rfl

variable {writer tree}

theorem linesOf_flat (nested : writer.nested = true) {lines : Lines}
    (told : writer.linesOf tree = .ok lines) : writer.flat.linesOf tree = .ok lines.topLevel := by
  obtain ⟨header, headed, told⟩ := bind_eq_ok.mp told
  obtain ⟨rows, mapped, told⟩ := bind_eq_ok.mp told
  obtain rfl := pure_eq_ok.mp told
  obtain ⟨places, answers⟩ := mapM_pairs.mp mapped
  rw [nested] at places
  have top : (rows.filter fun line => line.1.isTop).map Prod.fst = tree.preorder false none 0 := by
    rw [← tree.filter_isTop_preorder, ← places, List.filter_map]
    rfl
  have flatRows : (tree.preorder writer.flat.nested none 0).mapM (fun place =>
      Prod.mk place <$> writer.flat.rowLine tree.source place.asRow) =
        .ok (rows.filter fun line => line.1.isTop) := by
    refine mapM_pairs.mpr ⟨top, fun line among => ?_⟩
    have shown : line.1 ∈ tree.preorder false none 0 := top ▸ List.mem_map_of_mem among
    rw [writer.rowLine_flat tree.source (Item.depth_of_mem_placesOf_flat line.1 shown)]
    exact answers line (List.mem_of_mem_filter among)
  rw [linesOf, head_flat, headed, ok_bind, flatRows]
  rfl

end Writer

variable {config : Config} {delegate : Delegate} {tree : Tree}

theorem ofConfig_flat {writer : Writer} (made : Writer.ofConfig config delegate true = .ok writer) :
    Writer.ofConfig config delegate false = .ok writer.flat := by
  obtain ⟨format, formatted, same⟩ := bind_eq_ok.mp made
  obtain rfl := Except.ok.inj same
  rw [Writer.ofConfig, formatted]
  rfl

theorem places_linesOf {nested : Bool} {lines : Lines}
    (told : linesOf config delegate tree nested = .ok lines) :
    lines.rows.map Prod.fst = tree.preorder nested none 0 := by
  obtain ⟨writer, made, told⟩ := bind_eq_ok.mp told
  obtain ⟨-, isNested⟩ := Writer.of_ofConfig made
  obtain ⟨header, headed, told⟩ := bind_eq_ok.mp told
  obtain ⟨rows, mapped, told⟩ := bind_eq_ok.mp told
  obtain rfl := pure_eq_ok.mp told
  rw [isNested] at mapped
  exact (mapM_pairs.mp mapped).1

theorem linesOf_topLevel {lines : Lines} (told : linesOf config delegate tree true = .ok lines) :
    linesOf config delegate tree false = .ok lines.topLevel := by
  obtain ⟨writer, made, told⟩ := bind_eq_ok.mp told
  obtain ⟨-, nested⟩ := Writer.of_ofConfig made
  rw [linesOf, ofConfig_flat made, ok_bind, Writer.linesOf_flat nested told]

theorem topLevel_of_leaves (leaves : ∀ item ∈ tree.items, item.children = []) {lines : Lines}
    (told : linesOf config delegate tree true = .ok lines) : lines.topLevel = lines := by
  have places : (tree.preorder true none 0).filter RowPlace.isTop = tree.preorder true none 0 :=
    tree.filter_isTop_preorder.trans (Item.placesOf_of_leaves leaves).symm
  have kept : lines.rows.filter (fun line => line.1.isTop) = lines.rows := by
    refine List.filter_eq_self.mpr fun line among => List.filter_eq_self.mp places line.1 ?_
    rw [← places_linesOf told]
    exact List.mem_map_of_mem among
  rw [Lines.topLevel, kept]

theorem output_of_walked {nested : Bool} {deepest : Int} {left : Option Budget}
    (limited : ceiling config.maxDepth = .ok deepest)
    (rows : (script tree.source none 0 nested deepest none).rows =
      (tree.preorder nested none 0).map RowPlace.asRow)
    (ends : (script tree.source none 0 nested deepest none).ends = .ok left) :
    output config delegate tree.source nested =
      (fun lines => .text lines.text) <$> linesOf config delegate tree nested := by
  cases made : Writer.ofConfig config delegate nested with
  | error failure =>
    rw [output, linesOf, made]
    rfl
  | ok writer =>
    obtain ⟨rfl, rfl⟩ := Writer.of_ofConfig made
    have same : ∀ place, (writer.rowLine tree.source ∘ RowPlace.asRow) place =
        Prod.snd <$> (Prod.mk place <$> writer.rowLine tree.source place.asRow) := by
      intro place
      rw [Function.comp_apply]
      cases writer.rowLine tree.source place.asRow <;> rfl
    have told := mapM_map same (tree.preorder writer.nested none 0)
    rw [output, linesOf, made, ok_bind, ok_bind, Writer.linesOf]
    cases writer.head tree.source with
    | error failure => rfl
    | ok header =>
      rw [ok_bind, ok_bind, rowByRow, limited, ok_bind]
      dsimp only
      rw [rows, ends, List.mapM_map, told]
      cases (tree.preorder writer.nested none 0).mapM fun place =>
          Prod.mk place <$> writer.rowLine tree.source place.asRow with
      | error failure => rfl
      | ok lines => rfl

theorem walked_of_output {nested : Bool} {text : Value}
    (returns : output config delegate tree.source nested = .ok text) :
    ∃ deepest left, ceiling config.maxDepth = .ok deepest ∧
      (script tree.source none 0 nested deepest none).ends = .ok left := by
  obtain ⟨writer, made, returns⟩ := bind_eq_ok.mp returns
  obtain ⟨configured, isNested⟩ := Writer.of_ofConfig made
  obtain ⟨header, headed, returns⟩ := bind_eq_ok.mp returns
  obtain ⟨deepest, limited, returns⟩ := bind_eq_ok.mp returns
  obtain ⟨lines, mapped, returns⟩ := bind_eq_ok.mp returns
  obtain ⟨left, ends, returns⟩ := bind_eq_ok.mp returns
  rw [configured] at limited
  rw [isNested] at ends
  exact ⟨deepest, left, limited, ends⟩

namespace Writer

theorem asks_visit (writer : Writer) {ν : Type} (source : Source ν) (act : Act ν) :
    Asks act.columns.length (act.perform (writer.visit source)) := by
  have fill : ∀ text, Asks 0 (Step.of (writer.field text) >>= fun field => addCell field) :=
    fun text => (asks_of _).goOn asks_addCell
  cases act with
  | enter | close | leave => exact asks_pure ()
  | row row columns =>
    have header : Asks 0 (writer.visit source (.beginRow row.parent row.number row.depth)) := by
      refine asks_clearCells.goOn fun _ => ?_
      cases writer.config.rowHeaders with
      | false => exact asks_pure ()
      | true => exact (asks_of _).goOn fill
    have cell : ∀ column,
        Asks 1 (writer.visit source (.cell row.parent row.number column row.depth)) :=
      fun column => (asks_ask _ _ _ _ _).bind fun text => fill _
    have cells : ∀ column left, Asks left
        (cells (writer.visit source) row.parent row.number row.depth column left) := by
      intro column left
      induction left generalizing column with
      | zero => exact asks_pure ()
      | succ left ih =>
        have more := (cell column).bind fun _ => ih (column + 1)
        rwa [Nat.add_comm] at more
    have line : Asks 0 (writer.visit source (.endRow row.parent row.number row.depth)) :=
      asks_rowCells.goOn fun collected => (asks_of _).goOn asks_write
    rw [Act.columns, List.length_range]
    exact header.goOn fun _ => (cells 0 columns).bind fun _ => line

theorem asks_render (writer : Writer) {ν : Type} (source : Source ν) {deepest : Int}
    (limited : ceiling writer.config.maxDepth = .ok deepest) :
    Asks ((script source none 0 writer.nested deepest none).acts.flatMap Act.columns).length
      (writer.render source) := by
  rw [render_eq]
  refine (asks_of _).goOn fun header => ?_
  exact (asks_walkAll limited fun act _ => writer.asks_visit source act).bind fun _ =>
    asks_written.goOn fun lines => asks_pure _

end Writer

def cellColumns (tree : Tree) (nested : Bool) : List Nat :=
  (tree.preorder nested none 0).flatMap fun place =>
    List.range (tree.width (tree.level false place.parent))

theorem cellColumns_flat : (cellColumns tree false).Sublist (cellColumns tree true) := by
  rw [cellColumns, cellColumns, ← tree.filter_isTop_preorder]
  exact List.filter_sublist.flatMap _

theorem flatMap_columns {acts : List (Act TreeCell)}
    (counted : ∀ act ∈ acts, act.Counted tree.source) :
    acts.flatMap Act.columns = (acts.filterMap Act.row?).flatMap fun row =>
      List.range (tree.width (tree.level false row.parent)) := by
  induction acts with
  | nil => rfl
  | cons act rest ih =>
    obtain ⟨first, others⟩ := List.forall_mem_cons.mp counted
    rw [List.flatMap_cons, ih others]
    cases act with
    | enter | close | leave => rfl
    | row row columns =>
      obtain rfl := Except.ok.inj (first.symm.trans (columns_eq tree row.parent))
      rfl

theorem asks_serializer {nested : Bool} {writer : Writer} {deepest : Int}
    (made : Writer.ofConfig config delegate nested = .ok writer)
    (limited : ceiling config.maxDepth = .ok deepest)
    (rows : (script tree.source none 0 nested deepest none).rows =
      (tree.preorder nested none 0).map RowPlace.asRow) :
    Asks (cellColumns tree nested).length
      ((⟨format nested, config, delegate⟩ : Serializer).render tree.source) := by
  obtain ⟨rfl, rfl⟩ := Writer.of_ofConfig made
  have asks := writer.asks_render tree.source limited
  rw [flatMap_columns (script_counted tree.source none 0 writer.nested deepest none),
    ← Script.rows, rows, List.flatMap_map] at asks
  rw [render_serializer, made, Step.of_ok_bind]
  exact asks.bind fun text => asks_pure _

/-- A flat table of a tree is there whenever a nested one is: its header and its lines are those of
the nested one, without the lines of rows that stand below others. -/
theorem flat_rendering_of_nested (tree : Tree) (config : Config) (delegate : Delegate)
    (refusal : Nat → Option Failure) {text : Value}
    (returns : ((⟨.csvTree, config, delegate⟩ : Serializer).rendering refusal
      tree.source).outcome = .ok text) :
    ∃ lines, linesOf config delegate tree true = .ok lines ∧ text = .text lines.text ∧
      linesOf config delegate tree false = .ok lines.topLevel ∧
      ((⟨.csv, config, delegate⟩ : Serializer).rendering refusal tree.source).outcome =
        .ok (.text lines.topLevel.text) ∧
      ((∀ item ∈ tree.items, item.children = []) →
        ((⟨.csv, config, delegate⟩ : Serializer).rendering refusal tree.source).outcome =
          .ok text) := by
  have put := (rendering_comes config delegate tree.source true refusal).2 text returns
  obtain ⟨deepest, left, limited, ends⟩ := walked_of_output put
  obtain ⟨enters, rows⟩ := script_of_returns ends
  obtain ⟨flatRows, flatEnds⟩ := script_flat tree enters
  obtain ⟨writer, made, -⟩ := bind_eq_ok.mp put
  have flatMade := ofConfig_flat made
  rw [output_of_walked limited rows ends] at put
  obtain ⟨lines, told, rfl⟩ := map_eq_ok.mp put
  have flatTold := linesOf_topLevel told
  -- the flat table asks for no more than the nested one was given
  have granted := (Serializer.rendering_of_asks (asks_serializer made limited rows) returns).1
  have flatPut : output config delegate tree.source false = .ok (.text lines.topLevel.text) := by
    rw [output_of_walked limited flatRows flatEnds, flatTold]
    rfl
  have quiet := (rendering_comes config delegate tree.source false fun _ => none).1 fun _ => rfl
  have flat := (Serializer.rendering_of_asks (asks_serializer flatMade limited flatRows)
    (quiet.trans flatPut)).2 refusal fun more within =>
      granted more (Nat.lt_of_lt_of_le within cellColumns_flat.length_le)
  refine ⟨lines, told, rfl, flatTold, flat, fun leaves => flat.trans ?_⟩
  rw [topLevel_of_leaves leaves told]

def oneBelow : Tree where
  headers := #["N"]
  items := [⟨#[.text "a"], [⟨#[.text "b"], [], []⟩], []⟩, ⟨#[.text "c"], [], []⟩]

theorem flat_rendering_oneBelow :
    ((⟨.csvTree, {}, .plain⟩ : Serializer).rendering (fun _ => none) oneBelow.source).outcome =
        .ok (.text "N\na\n b\nc\n") ∧
      ((⟨.csv, {}, .plain⟩ : Serializer).rendering (fun _ => none) oneBelow.source).outcome =
        .ok (.text "N\na\nc\n") := by
  have returns : ((⟨.csvTree, {}, .plain⟩ : Serializer).rendering (fun _ => none)
      oneBelow.source).outcome = .ok (.text "N\na\n b\nc\n") := rfl
  obtain ⟨lines, told, -, -, flat, -⟩ :=
    flat_rendering_of_nested oneBelow {} .plain (fun _ => none) returns
  cases told
  exact ⟨returns, flat⟩

end Csv

end TreeTable

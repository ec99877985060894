import TreeTable.Proofs.Edit
import TreeTable.Proofs.Html.RowHeader
import TreeTable.Proofs.Walk.Ceiling

namespace TreeTable

namespace Tree

def withRowRoles (tree : Tree) (roles : Roles) : Tree := { tree with rowHeaderRoles := roles }

def fresh (tree : Tree) : Tree := { headers := tree.headers, headerRoles := tree.headerRoles }

theorem clear_eq (tree : Tree) : tree.clear = tree.fresh.withRowRoles tree.rowHeaderRoles := rfl

def told (tree : Tree) (call : Call) : Except Failure Reply × Tree :=
  match (Content.tree tree none).perform call with
  | .ok (reply, some (.tree after _)) => (.ok reply, after)
  | .ok (reply, _) => (.ok reply, tree)
  | .error failure => (.error failure, tree)

def toldAll (tree : Tree) : List Call → List (Except Failure Reply) × Tree
  | [] => ([], tree)
  | call :: rest =>
    let (reply, after) := tree.told call
    let (replies, last) := after.toldAll rest
    (reply :: replies, last)

variable (tree : Tree) (roles : Roles)

theorem locate_withRowRoles (cyclic : Bool) (path : List Value) :
    (tree.withRowRoles roles).locate cyclic path = tree.locate cyclic path := by
  have goes : ∀ rows, locate.go (tree.withRowRoles roles) cyclic rows path =
      locate.go tree cyclic rows path := by
    induction path with
    | nil => exact fun _ => rfl
    | cons position rest ih =>
      intro rows
      simp only [locate.go, ih]
      rfl
  exact goes tree.items

theorem locateLevel_withRowRoles (cyclic : Bool) (path : Option (List Value)) :
    (tree.withRowRoles roles).locateLevel cyclic path = tree.locateLevel cyclic path := by
  cases path with
  | none => rfl
  | some path => simp only [locateLevel, locate_withRowRoles]

theorem appendRow_withRowRoles (location : List Nat) (values attributes : Value) :
    (tree.withRowRoles roles).appendRow location values attributes =
      (fun changed => (changed.1, changed.2.withRowRoles roles)) <$>
        tree.appendRow location values attributes := by
  simp only [appendRow, map_bind, map_pure]
  rfl

theorem removeRow_withRowRoles (location : List Nat) (row : Value) :
    (tree.withRowRoles roles).removeRow location row =
      (fun changed => (changed.1, changed.2.withRowRoles roles)) <$>
        tree.removeRow location row := by
  simp only [removeRow, map_bind, map_pure]
  rfl

theorem setValue_withRowRoles (location : List Nat) (column value : Value) :
    (tree.withRowRoles roles).setValue location column value =
      (fun changed => changed.withRowRoles roles) <$> tree.setValue location column value := by
  simp only [setValue, map_bind, map_pure]
  rfl

theorem setHeaders_withRowRoles (headers : Value) :
    (tree.withRowRoles roles).setHeaders headers =
      (fun changed => changed.withRowRoles roles) <$> tree.setHeaders headers := by
  simp only [setHeaders, map_bind, map_pure]
  rfl

theorem told_withRowRoles {call : Call} (edits : call.editsTree) :
    (tree.withRowRoles roles).told call =
      ((tree.told call).1, (tree.told call).2.withRowRoles roles) := by
  cases call with
  | appendRow path values attributes =>
    simp only [told, Content.perform, locateLevel_withRowRoles, appendRow_withRowRoles]
    cases tree.locateLevel (Content.isCyclic none) path with
    | error failure => rfl
    | ok location =>
      rw [ok_bind, ok_bind]
      cases tree.appendRow location values attributes <;> rfl
  | removeRow path row =>
    simp only [told, Content.perform, locateLevel_withRowRoles, removeRow_withRowRoles]
    cases tree.locateLevel (Content.isCyclic none) path with
    | error failure => rfl
    | ok location =>
      rw [ok_bind, ok_bind]
      cases tree.removeRow location row <;> rfl
  | setValue path column value =>
    simp only [told, Content.perform, locate_withRowRoles, setValue_withRowRoles]
    cases tree.locate (Content.isCyclic none) path with
    | error failure => rfl
    | ok location =>
      rw [ok_bind, ok_bind]
      cases tree.setValue location column value <;> rfl
  | setHeaders headers =>
    simp only [told, Content.perform, setHeaders_withRowRoles]
    cases tree.setHeaders headers <;> rfl
  | clear => rfl
  | _ => cases edits

theorem toldAll_withRowRoles {calls : List Call} (edits : ∀ call ∈ calls, call.editsTree) :
    (tree.withRowRoles roles).toldAll calls =
      ((tree.toldAll calls).1, (tree.toldAll calls).2.withRowRoles roles) := by
  induction calls generalizing tree with
  | nil => rfl
  | cons call rest ih =>
    obtain ⟨first, others⟩ := List.forall_mem_cons.mp edits
    simp only [toldAll, told_withRowRoles tree roles first, ih _ others]

theorem rowHeaderRoles_toldAll {calls : List Call} (edits : ∀ call ∈ calls, call.editsTree) :
    (tree.toldAll calls).2.rowHeaderRoles = tree.rowHeaderRoles := by
  have same : tree.withRowRoles tree.rowHeaderRoles = tree := rfl
  have told := toldAll_withRowRoles tree tree.rowHeaderRoles edits
  rw [same] at told
  exact congrArg (fun answered => answered.2.rowHeaderRoles) told

def rowRole (roles : Roles) (index role : Value) : Except Failure Value := do
  return ((← roles.text role index).map Value.text).getD .null

theorem source_withRowRoles :
    (tree.withRowRoles roles).source = tree.source.withRowRoles (rowRole roles) := by
  have header : (tree.withRowRoles roles).source.header =
      (tree.source.withRowRoles (rowRole roles)).header := by
    funext axis index role
    cases axis <;> cases role <;> rfl
  exact congrArg (fun header => { tree.source with header }) header

variable {tree}

theorem headerRole_withRowRoles (row : Nat) (name : Option Value) :
    Html.headerRole (tree.source.withRowRoles (rowRole roles)) .row row name =
      Source.decoration (fun role => Value.cellText <$> rowRole roles (.int row) role) name := rfl

theorem unmarked (bare : tree.rowHeaderRoles = []) (name : Option Value) :
    Html.Unmarked tree.source (tree.source.withRowRoles (rowRole roles)) name := by
  intro row
  have plain : tree.source = tree.source.withRowRoles (rowRole []) := by
    rw [← source_withRowRoles, withRowRoles, ← bare]
  have asked : Html.headerRole tree.source .row row name =
      Source.decoration (fun role => Value.cellText <$> rowRole [] (.int row) role) name :=
    congrArg (Html.headerRole · .row row name) plain
  rw [asked, headerRole_withRowRoles]
  cases name with
  | none => exact .inr ⟨rfl, "", rfl⟩
  | some role =>
    cases named : role.canBeKey with
    | false =>
      have fails : ∀ roles, rowRole roles (.int row) role = .error .wrongType := by
        intro roles
        rw [rowRole, Roles.text, named]
        rfl
      refine .inl ⟨.wrongType, ?_, ?_⟩
      · rw [Source.decoration, fails]
        rfl
      · rw [Source.decoration, fails]
        rfl
    | true =>
      obtain ⟨text, found, -⟩ := roles.text_answers named row
      have given : rowRole roles (.int row) role = .ok ((text.map Value.text).getD .null) := by
        rw [rowRole, found]
        rfl
      have nothing : rowRole [] (.int row) role = .ok .null := by
        rw [rowRole, Roles.text, named]
        rfl
      refine .inr ⟨?_, ((text.map Value.text).getD .null).cellText, ?_⟩
      · rw [Source.decoration, nothing]
        rfl
      · rw [Source.decoration, given]
        rfl

/-- Whether a render of rows under a cleared tree comes to one of which the tree still has the role
that is asked for. -/
def ShowsRowRole (tree new : Tree) (serializer : Serializer) : Prop :=
  serializer.readsRowRoles = true ∧ ∃ cap, serializer.config.rowCap = .ok cap ∧
    ∃ place ∈ new.visited true none 0 (some (Budget.ofLimit cap)), ∃ markup,
      Html.headerRole tree.source .row place.row serializer.config.htmlPrefixRole = .ok markup ∧
        markup ≠ ""

theorem headerRole_source (new : Tree) (row : Nat) (name : Option Value) :
    Html.headerRole tree.source .row row name =
      Html.headerRole (new.source.withRowRoles (rowRole tree.rowHeaderRoles)) .row row name :=
  -- of the source with these roles it is their answer alone
  (congrArg (Html.headerRole · .row row name) (source_withRowRoles tree tree.rowHeaderRoles)).trans
    rfl

theorem visited_of_no_rows (empty : tree.source.rowCount none = .ok 0) (budget : Option Budget) :
    tree.visited true none 0 budget = [] := by
  have items : tree.items = [] :=
    List.length_eq_zero_iff.mp (Int.ofNat_eq_zero.mp (Except.ok.inj empty))
  have none := tree.length_preorder true none 0
  rw [(Walk.rowsUnder_eq_zero tree).mpr items, List.length_eq_zero_iff] at none
  rw [visited, none, List.take_nil]

theorem eq_zero_of_marked {new : Tree} {serializer : Serializer}
    (reads : serializer.readsRowRoles = true) {more : Nat}
    (marked : Html.Table.Marked serializer.config new.source (rowRole tree.rowHeaderRoles) more) :
    more = 0 ↔ ¬ tree.ShowsRowRole new serializer := by
  cases marked with
  | none empty =>
    refine iff_of_true rfl ?_
    rintro ⟨-, cap, -, place, among, -⟩
    rw [visited_of_no_rows empty] at among
    cases among
  | rows capped ends =>
    obtain ⟨-, -, rows⟩ := Walk.script_above_ceiling ends
    rw [rows, Html.markupLengths_eq_zero, List.forall_mem_map]
    simp only [← headerRole_source]
    constructor
    · rintro bare ⟨-, cap', capped', place, among, markup, marked, shown⟩
      cases capped.symm.trans capped'
      exact shown (bare place among markup marked)
    · intro none place among markup marked
      by_contra shown
      exact none ⟨reads, _, capped, place, among, markup, marked, shown⟩

/-- A cleared tree answers all calls, whichever they are, as a new one under the same headers, and
is then rendered like it, with one exception: a markup table with row headers still puts the markup
that the tree has of their role in front of the headers of the rows that have come since. -/
theorem outcome_cleared (tree : Tree) {calls : List Call} (edits : ∀ call ∈ calls, call.editsTree) :
    let cleared := tree.clear.toldAll calls
    let new := tree.fresh.toldAll calls
    cleared.1 = new.1 ∧ ∀ (serializer : Serializer) (refusal : Nat → Option Failure),
      let outcome (tree : Tree) := (serializer.serialize (some (.tree tree none)) refusal).outcome
      (∀ failure, outcome cleared.2 = .error failure ↔ outcome new.2 = .error failure) ∧
      ∀ text, outcome new.2 = .ok text → ∃ text', outcome cleared.2 = .ok text' ∧
        (text' = text ↔ ¬ tree.ShowsRowRole new.2 serializer) := by
  intro cleared new
  have becomes : cleared = (new.1, new.2.withRowRoles tree.rowHeaderRoles) := by
    simp only [cleared, clear_eq, toldAll_withRowRoles _ _ edits, new]
  have bare : new.2.rowHeaderRoles = [] := rowHeaderRoles_toldAll tree.fresh edits
  rw [becomes]
  refine ⟨rfl, fun serializer refusal => ?_⟩
  intro outcome
  have before : outcome new.2 = (serializer.rendering refusal new.2.source).outcome := rfl
  have after : outcome (new.2.withRowRoles tree.rowHeaderRoles) = (serializer.rendering refusal
      (new.2.source.withRowRoles (rowRole tree.rowHeaderRoles))).outcome := by
    rw [← source_withRowRoles]
    rfl
  dsimp only
  rw [before, after]
  cases reads : serializer.readsRowRoles with
  | false =>
    rw [Serializer.rendering_withRowRoles _ _ reads]
    refine ⟨fun _ => .rfl, fun text given => ⟨text, given, iff_of_true rfl ?_⟩⟩
    rintro ⟨reads', -⟩
    cases reads.symm.trans reads'
  | true =>
    obtain ⟨format, config, delegate⟩ := serializer
    obtain ⟨table, headed⟩ : format = .htmlTable ∧ config.rowHeaders = true := by
      simpa [Serializer.readsRowRoles] using reads
    subst table
    rw [Html.Table.outcome_eq, Html.Table.outcome_eq]
    obtain ⟨failure, fails, fails'⟩ | ⟨more, text, text', _, given, given', grown, marked⟩ :=
      Html.Table.answer_render_grown delegate headed
        (unmarked tree.rowHeaderRoles bare config.htmlPrefixRole) refusal
    · rw [fails, fails']
      exact ⟨fun _ => .rfl, nofun⟩
    · rw [given, given']
      refine ⟨fun _ => iff_of_false nofun nofun, ?_⟩
      rintro _ ⟨⟩
      have alike : Value.text text' = Value.text text ↔ text' = text := by rw [Value.text.injEq]
      exact ⟨_, rfl, alike.trans (grown.eq_iff.trans (eq_zero_of_marked reads marked))⟩

def iconRow : Tree where
  headers := #["N"]
  items := [⟨#[.text "x"], [], []⟩]
  rowHeaders := #["1"]
  rowHeaderRoles := [(.text "icon", .list [.text "<b>"])]

def addRow : Call := .appendRow none (.list [.text "y"]) .null

theorem outcome_cleared_without_icon :
    (∀ call ∈ [addRow], call.editsTree) ∧
    ((⟨.htmlTable, { rowHeaders := true, htmlPrefixRole := some (.text "flag") },
        .plain⟩ : Serializer).serialize
      (some (.tree (iconRow.clear.toldAll [addRow]).2 none))).outcome =
        .ok (.text ("<table>\n<tr><th></th><th>N</th></tr>\n" ++
          "<tr><th></th><td>y</td></tr>\n</table>\n")) := by
  have edits : ∀ call ∈ [addRow], call.editsTree := List.forall_mem_singleton.mpr rfl
  obtain ⟨_, given, same⟩ := ((outcome_cleared iconRow edits).2 ⟨.htmlTable,
    { rowHeaders := true, htmlPrefixRole := some (.text "flag") }, .plain⟩ fun _ => none).2 _ rfl
  obtain rfl := same.mpr fun ⟨_, _, _, _, _, _, marked, shown⟩ => shown (Except.ok.inj marked).symm
  exact ⟨edits, given⟩

theorem icon_of_cleared_row :
    let serializer : Serializer :=
      ⟨.htmlTable, { rowHeaders := true, htmlPrefixRole := some (.text "icon") }, .plain⟩
    (∀ call ∈ [addRow], call.editsTree) ∧
    (serializer.serialize (some (.tree (iconRow.fresh.toldAll [addRow]).2 none))).outcome =
      .ok (.text ("<table>\n<tr><th></th><th>N</th></tr>\n" ++
        "<tr><th></th><td>y</td></tr>\n</table>\n")) ∧
    (serializer.serialize (some (.tree (iconRow.clear.toldAll [addRow]).2 none))).outcome =
      .ok (.text ("<table>\n<tr><th></th><th>N</th></tr>\n" ++
        "<tr><th><b></th><td>y</td></tr>\n</table>\n")) :=
  ⟨List.forall_mem_singleton.mpr rfl, rfl, rfl⟩

end Tree

end TreeTable

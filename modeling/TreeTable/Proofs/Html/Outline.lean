import TreeTable.Content
import TreeTable.Proofs.Forest
import TreeTable.Proofs.Html.Bullets
import TreeTable.Proofs.Render
import TreeTable.Proofs.Tree
import TreeTable.Proofs.Walk.TreeActs

namespace TreeTable

variable {ν : Type}

namespace Html.Outline

open Render Walk

def rowCells (delegate : Delegate) (source : Source ν) (row : Row ν) (columns : Nat) :
    Except Failure (List String) :=
  (List.range columns).mapM fun column : Nat =>
    delegate.text source row.parent (.int row.number) (.int column)

def pieces (delegate : Delegate) (source : Source ν) : Act ν → Except Failure (List String)
  | .enter _ depth rows => .ok (if hasList depth rows then ["<ul>"] else [])
  | .row row columns => do
    return ["<li>" ++ " ".intercalate (← rowCells delegate source row columns)]
  | .close _ => .ok ["</li>"]
  | .leave _ depth rows => .ok (if hasList depth rows then ["</ul>"] else [])

theorem fills_cells (delegate : Delegate) (source : Source ν) (row : Row ν) (column left : Nat) :
    Fills (cells (visit delegate source) row.parent row.number row.depth column left)
      ((List.range' column left).mapM fun column : Nat =>
        Value.text <$> delegate.text source row.parent (.int row.number) (.int column)) := by
  induction left generalizing column with
  | zero => exact fills_nothing
  | succ left ih =>
    have first : Fills (visit delegate source (.cell row.parent row.number column row.depth))
        (delegate.text source row.parent (.int row.number) (.int column) >>= fun text =>
          .ok [.text text]) :=
      (tells_ask _ _ _ _ _).andThen fun text => fills_addCell (.text text)
    have both := first.append (ih (column + 1))
    rw [bind_assoc] at both
    rw [cells, List.range'_succ, List.mapM_cons, map_eq_pure_bind, bind_assoc]
    exact both

theorem addsActs (delegate : Delegate) (source : Source ν) :
    AddsActs (visit delegate source) (pieces delegate source) := by
  have tag : ∀ (shown : Bool) (piece : String),
      Adds (if shown then write piece else pure ()) (.ok (if shown then [piece] else [])) := by
    intro shown piece
    cases shown with
    | true => exact adds_write piece
    | false => exact adds_nothing
  intro act
  cases act with
  | enter parent depth rows => exact tag _ _
  | leave parent depth rows => exact tag _ _
  | close row => exact adds_write "</li>"
  | row row columns =>
    have shown : (List.range' 0 columns).mapM (fun column : Nat =>
        Value.text <$> delegate.text source row.parent (.int row.number) (.int column)) =
          List.map Value.text <$> rowCells delegate source row columns := by
      rw [← List.range_eq_range']
      exact mapM_map (fun _ => rfl) _
    have adds := adds_of_fills (fills_cells delegate source row 0 columns) fun collected =>
      .ok ("<li>" ++ " ".intercalate (collected.map Value.display))
    rw [shown] at adds
    have line : (List.map Value.text <$> rowCells delegate source row columns >>= fun collected =>
        (.ok ("<li>" ++ " ".intercalate (collected.map Value.display)) : Except Failure String) >>=
          fun line => .ok [line]) = pieces delegate source (.row row columns) := by
      have told : pieces delegate source (.row row columns) =
          rowCells delegate source row columns >>= fun texts =>
            .ok ["<li>" ++ " ".intercalate texts] := rfl
      rw [told]
      cases rowCells delegate source row columns with
      | error failure => rfl
      | ok texts =>
        have displayed : (texts.map Value.text).map Value.display = texts := by
          simp [Function.comp_def, Value.display]
        exact congrArg (fun texts => Except.ok ["<li>" ++ " ".intercalate texts]) displayed
    rw [line] at adds
    exact adds

theorem outcome_comes (config : Config) (delegate : Delegate) (source : Source ν)
    (refusal : Nat → Option Failure) :
    UnlessRefused refusal
      ((⟨.htmlList, config, delegate⟩ : Serializer).rendering refusal source).outcome
      (actByAct config source (pieces delegate source) true none fun _ written =>
        .ok (.text (String.join written ++ "\n"))) := by
  have comes := answer_acts (addsActs delegate source) config source true none
    (fun _ => do return String.join (← written) ++ "\n")
    (fun _ written => .ok (String.join written ++ "\n")) (fun _ _ => rfl) refusal
  have texts := comes.map Value.text
  rw [map_actByAct] at texts
  have rendered : ((⟨.htmlList, config, delegate⟩ : Serializer).rendering refusal source).outcome =
      Value.text <$> answer refusal (render config delegate source) :=
    Serializer.outcome_of_uncapped rfl refusal
  rw [rendered]
  exact texts

end Html.Outline

namespace Item

mutual

def bullet (tree : Tree) (columns : Nat) : Item → Html.Bullet
  | ⟨values, children, roles⟩ =>
    ⟨" ".intercalate (texts columns ⟨values, children, roles⟩),
      bullets tree (tree.width children) children⟩

def bullets (tree : Tree) (columns : Nat) : List Item → List Html.Bullet
  | [] => []
  | item :: rest => bullet tree columns item :: bullets tree columns rest

end

end Item

def Tree.bullets (tree : Tree) : List Html.Bullet :=
  Item.bullets tree (tree.width tree.items) tree.items

namespace Html.Outline

open Render Walk Bullet

theorem intercalate_escape {separator : List Char} (plain : Markup.escape separator = separator)
    (texts : List (List Char)) :
    separator.intercalate (texts.map Markup.escape) =
      Markup.escape (separator.intercalate texts) := by
  induction texts with
  | nil => rfl
  | cons first rest ih =>
    cases rest with
    | nil => simp
    | cons second rest =>
      rw [List.map_cons, List.map_cons, List.intercalate_cons_cons, ← List.map_cons, ih,
        List.intercalate_cons_cons, Markup.escape_append, Markup.escape_append, plain]

theorem toList_escapedText (text : String) :
    (Delegate.escapedText 0 text).toList = Markup.escape text.toList := by
  simp [Delegate.escapedText, Markup.clip]

theorem intercalate_escapedText (texts : List String) :
    (" ".intercalate (texts.map (Delegate.escapedText 0))).toList =
      Markup.escape (" ".intercalate texts).toList := by
  have plain : Markup.escape " ".toList = " ".toList := by decide
  rw [String.toList_intercalate, String.toList_intercalate, ← intercalate_escape plain]
  simp [Function.comp_def, toList_escapedText]

theorem spell_letters (text : List Char) :
    Lexeme.spell (text.map .letter) = Markup.escape text := by
  rw [Lexeme.spell, List.flatMap_map]
  rfl

def Spells (tree : Tree) (acts : List (Act TreeCell)) (lexemes : List Lexeme) : Prop :=
  Answers (fun added => String.join added.flatten = String.ofList (Lexeme.spell lexemes))
    (acts.mapM (pieces (.escaping 0) tree.source))

variable {tree : Tree} {act : Act TreeCell} {acts acts' : List (Act TreeCell)}
  {lexemes lexemes' : List Lexeme}

theorem Spells.nil : Spells tree [] [] := .ok rfl

theorem Spells.append (spells : Spells tree acts lexemes) (spells' : Spells tree acts' lexemes') :
    Spells tree (acts ++ acts') (lexemes ++ lexemes') := by
  unfold Spells
  rw [List.mapM_append]
  refine spells.bind fun added same => spells'.bind fun added' same' => .ok ?_
  rw [List.flatten_append, String.join_append, same, same', Lexeme.spell_append,
    String.ofList_append]

theorem Spells.one {added : List String}
    (told : pieces (.escaping 0) tree.source act = .ok added)
    (same : String.join added = String.ofList (Lexeme.spell lexemes)) :
    Spells tree [act] lexemes := by
  unfold Spells
  rw [List.mapM_cons, told]
  have single : [added].flatten = added := List.flatten_singleton
  exact .ok (single.symm ▸ same)

theorem spells_row (parent : Option TreeCell) {row : Nat} {item : Item}
    (found : (tree.level false parent)[row]? = some item) (depth : Int) (columns : Nat) :
    Spells tree [.row ⟨parent, row, depth⟩ columns]
      (.openItem :: (" ".intercalate (item.texts columns)).toList.map .letter) := by
  have cells : rowCells (.escaping 0) tree.source ⟨parent, row, depth⟩ columns =
      .ok ((item.texts columns).map (Delegate.escapedText 0)) := by
    rw [rowCells, funext (Tree.escaping_text 0 parent found), Item.texts, List.map_map]
    exact List.mapM_pure
  have told : pieces (.escaping 0) tree.source (.row ⟨parent, row, depth⟩ columns) =
      rowCells (.escaping 0) tree.source ⟨parent, row, depth⟩ columns >>= fun texts =>
        .ok ["<li>" ++ " ".intercalate texts] := rfl
  rw [cells] at told
  refine .one told ?_
  rw [← String.toList_inj, String.toList_ofList]
  have spelled : Lexeme.spell (.openItem ::
      (" ".intercalate (item.texts columns)).toList.map .letter) =
        "<li>".toList ++ Markup.escape (" ".intercalate (item.texts columns)).toList := by
    rw [← spell_letters]
    exact List.flatMap_cons
  rw [spelled, ← intercalate_escapedText]
  simp

theorem spells_level (parent : Option TreeCell) (depth : Int) (rows : Nat)
    (spells : Spells tree acts lexemes) :
    Spells tree (.enter parent depth rows :: (acts ++ [.leave parent depth rows]))
      (if hasList depth rows then .openList :: (lexemes ++ [.closeList]) else lexemes) := by
  have entered : pieces (.escaping 0) tree.source (.enter parent depth rows) =
      .ok (if hasList depth rows then ["<ul>"] else []) := rfl
  have left : pieces (.escaping 0) tree.source (.leave parent depth rows) =
      .ok (if hasList depth rows then ["</ul>"] else []) := rfl
  cases shown : hasList depth rows with
  | false =>
    rw [shown] at entered left
    have opened : Spells tree [.enter parent depth rows] [] := .one entered rfl
    have closed : Spells tree [.leave parent depth rows] [] := .one left rfl
    have whole := opened.append (spells.append closed)
    rwa [List.append_nil, List.nil_append] at whole
  | true =>
    rw [shown] at entered left
    have opened : Spells tree [.enter parent depth rows] [.openList] := .one entered (by decide)
    have closed : Spells tree [.leave parent depth rows] [.closeList] := .one left (by decide)
    exact opened.append (spells.append closed)

mutual

theorem spells_actsBelow (tree : Tree) (depth : Int) (deep : 0 < depth) :
    (item : Item) → Spells tree (item.actsBelow tree depth)
      (lexemesInside (Item.bullets tree (tree.width item.children) item.children))
  | ⟨values, children, roles⟩ => by
    have inside := spells_actsOf tree (some ⟨⟨values, children, roles⟩, .int 0⟩)
      (tree.width children) 0 depth (Int.le_of_lt deep) children rfl
    have level := spells_level (some ⟨⟨values, children, roles⟩, .int 0⟩) depth children.length
      inside
    have below : (depth == 0) = false := by simpa using Int.ne_of_gt deep
    rw [Item.actsBelow]
    cases children with
    | nil =>
      rw [List.length_nil, hasList, below] at level
      exact level
    | cons first rest =>
      rw [List.length_cons, hasList, below] at level
      have filled : Item.bullets tree (tree.width (first :: rest)) (first :: rest) ≠ [] := by
        simp [Item.bullets]
      rw [lexemesInside_of_ne_nil filled]
      exact level

theorem spells_actsOf (tree : Tree) (parent : Option TreeCell) (columns row : Nat) (depth : Int)
    (deep : 0 ≤ depth) : (items : List Item) → (tree.level false parent).drop row = items →
      Spells tree (Item.actsOf tree parent columns row depth items)
        (lexemesOf (Item.bullets tree columns items))
  | [], _ => .nil
  | ⟨values, children, roles⟩ :: rest, suffix => by
    obtain ⟨found, suffix'⟩ := of_drop_eq_cons suffix
    have shown := spells_row parent found depth columns
    have below := spells_actsBelow tree (depth + 1) (by omega) ⟨values, children, roles⟩
    have closed : Spells tree [.close ⟨parent, row, depth⟩] [.closeItem] := .one rfl (by decide)
    have others := spells_actsOf tree parent columns (row + 1) depth deep rest suffix'
    have whole := shown.append (below.append (closed.append others))
    rw [Item.actsOf, Item.bullets, Item.bullet, lexemesOf, lexemes]
    simpa using whole

end

theorem spells_acts (tree : Tree) :
    Spells tree (tree.acts none 0) (.openList :: (lexemesOf tree.bullets ++ [.closeList])) :=
  spells_level none 0 tree.items.length
    (spells_actsOf tree none (tree.width tree.items) 0 0 (Int.le_refl 0) tree.items rfl)

theorem eq_outline_of_acts {config : Config} {given : Value}
    (returns : actByAct config tree.source (pieces (.escaping 0) tree.source) true none
      (fun _ written => .ok (.text (String.join written ++ "\n"))) = .ok given) :
    given = .text (outline tree.bullets) := by
  obtain ⟨deepest, -, returns⟩ := bind_eq_ok.mp returns
  obtain ⟨added, told, returns⟩ := bind_eq_ok.mp returns
  obtain ⟨left, ends, returns⟩ := bind_eq_ok.mp returns
  obtain rfl := Except.ok.inj returns
  rw [script_acts ends] at told
  obtain ⟨added', told', same⟩ := spells_acts tree
  obtain rfl := Except.ok.inj (told.symm.trans told')
  have ended : Lexeme.spell [.letter '\n'] = "\n".toList := by decide
  rw [same, outline, outlineLexemes, Lexeme.spell_append, ended, String.ofList_append,
    String.ofList_toList]

/-- The nested list of a tree is the list of its rows, each with its texts side by side, and from
the list they can be read: no tree with other texts or other rows below each other has it. -/
theorem readOutline_rendering (config : Config) (tree : Tree) (refusal : Nat → Option Failure)
    {given : Value} (returns : ((⟨.htmlList, config, .escaping 0⟩ : Serializer).serialize
      (some (.tree tree none)) refusal).outcome = .ok given) :
    ∃ text, given = .text text ∧ text = outline tree.bullets ∧
      readOutline text = some tree.bullets ∧
      ∀ (config' : Config) (other : Tree) (refusal' : Nat → Option Failure),
        ((⟨.htmlList, config', .escaping 0⟩ : Serializer).serialize
          (some (.tree other none)) refusal').outcome = .ok (.text text) →
            other.bullets = tree.bullets := by
  have written : ∀ (config : Config) (tree : Tree) (refusal : Nat → Option Failure) (given : Value),
      ((⟨.htmlList, config, .escaping 0⟩ : Serializer).serialize
        (some (.tree tree none)) refusal).outcome = .ok given →
          given = .text (outline tree.bullets) := fun config tree refusal given returns =>
    eq_outline_of_acts ((outcome_comes config (.escaping 0) tree.source refusal).2 given returns)
  have read := readOutline_outline tree.bullets
  refine ⟨_, written config tree refusal given returns, rfl, read, ?_⟩
  intro config' other refusal' same
  have texts := Value.text.inj (written config' other refusal' _ same)
  rw [texts, readOutline_outline] at read
  exact Option.some.inj read

def taggedRows : Tree where
  items := [⟨#[.text "<li>", .null], [⟨#[.text "&"], [], []⟩], []⟩, ⟨#[], [], []⟩]

theorem readOutline_taggedRows :
    readOutline "<ul><li>&lt;li&gt; <ul><li>&amp;</li></ul></li><li> </li></ul>\n" =
      some [⟨"<li> ", [⟨"&", []⟩]⟩, ⟨" ", []⟩] := by
  have renders : ((⟨.htmlList, {}, .escaping 0⟩ : Serializer).serialize
      (some (.tree taggedRows none))).outcome.isOk = true := by decide +kernel
  cases returns : ((⟨.htmlList, {}, .escaping 0⟩ : Serializer).serialize
      (some (.tree taggedRows none))).outcome with
  | error failure =>
    rw [returns] at renders
    cases renders
  | ok given =>
    obtain ⟨text, -, same, read, -⟩ := readOutline_rendering {} taggedRows (fun _ => none) returns
    have written : outline taggedRows.bullets =
        "<ul><li>&lt;li&gt; <ul><li>&amp;</li></ul></li><li> </li></ul>\n" := by decide +kernel
    rw [same, written] at read
    exact read

end Html.Outline

end TreeTable

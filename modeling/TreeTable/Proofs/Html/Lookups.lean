import TreeTable.Proofs.Html.Inline
import TreeTable.Proofs.Roles

namespace TreeTable

open Render Walk

variable {ν : Type}

theorem Source.settled_of_decoration {lookup : Value → Except Failure String} {role : Value}
    (comes : Comes (decoration lookup (some role))) {failure : Failure}
    (fails : lookup role = .error failure) : failure.isAbsence = true := by
  cases absence : failure.isAbsence with
  | true => rfl
  | false =>
    rw [decoration, fails] at comes
    dsimp only at comes
    rw [absence, if_neg Bool.false_ne_true] at comes
    exact absurd comes (not_comes_error failure)

namespace Html

variable {config : Config} {delegate : Delegate} {source : Source ν} {answers : RoleAnswers ν}

theorem settles_of_role {node : ν} {wanted : Value}
    (comes : Comes (role source node (some wanted))) :
    source.roles.Settles (.cell node wanted) := by
  intro failure fails
  refine Source.settled_of_decoration comes ?_
  have fails : source.text node (some wanted) = .error failure := fails
  rw [fails]
  rfl

theorem settles_of_headerRole {axis : Axis} {index : Nat} {wanted : Value}
    (comes : Comes (headerRole source axis index (some wanted))) :
    source.roles.Settles (.header axis (.int index) wanted) := by
  intro failure fails
  refine Source.settled_of_decoration comes ?_
  have fails : source.header axis (.int index) (some wanted) = .error failure := fails
  rw [fails]
  rfl

inductive TextRole (config : Config) (source : Source ν) (node : ν) : Value → Prop
  | link {wanted : Value} (configured : config.linkRole = some wanted) :
    TextRole config source node wanted
  | linkClass {wanted : Value} {address : String} (configured : config.linkClassRole = some wanted)
    (found : role source node config.linkRole = .ok address) (linked : address ≠ "") :
    TextRole config source node wanted
  | markup {wanted : Value} (configured : config.htmlPrefixRole = some wanted) :
    TextRole config source node wanted

theorem TextRole.withRoles {node : ν} {wanted : Value}
    (asked : TextRole config source node wanted)
    (same : source.roles.SameBut (.cell node wanted) answers) :
    TextRole config (source.withRoles answers) node wanted := by
  cases asked with
  | link configured => exact .link configured
  | markup configured => exact .markup configured
  | linkClass configured found linked =>
    cases named : config.linkRole with
    | none =>
      rw [named] at found
      cases found
      exact absurd rfl linked
    | some link =>
      by_cases both : link = wanted
      · exact .link (named.trans (congrArg some both))
      · have other : RoleQuestion.cell node link ≠ .cell node wanted :=
          fun alike => both (RoleQuestion.cell.inj alike).2
        have answered : answers.cell node link = source.text node (some link) :=
          same.cell node link other
        refine .linkClass configured ?_ linked
        rw [named] at found ⊢
        rw [← found, role, role, Source.decoration, Source.decoration, ← answered]
        rfl

theorem settles_of_decoratedText {parent : Option ν} {row column : Value} {node : ν}
    {wanted : Value} (comes : Comes (decoratedText config delegate source parent row column))
    (cell : source.cell row column parent = .ok node)
    (asked : TextRole config source node wanted) : source.roles.Settles (.cell node wanted) := by
  rw [decoratedText, cell, ok_bind] at comes
  obtain ⟨text, -, comes⟩ := comes.of_bind
  obtain ⟨address, found, comes⟩ := comes.of_bind
  have others : (address ≠ "" → Comes (role source node config.linkClassRole)) ∧
      Comes (role source node config.htmlPrefixRole) := by
    dsimp only at comes
    by_cases bare : address.isEmpty = true
    · rw [if_pos bare, pure_bind] at comes
      obtain ⟨markup, marked, -⟩ := comes.of_bind
      exact ⟨fun linked => absurd (String.isEmpty_iff.mp bare) linked, markup, marked⟩
    · rw [if_neg bare] at comes
      obtain ⟨className, classed, comes⟩ := comes.of_bind
      obtain ⟨markup, marked, -⟩ := comes.of_bind
      exact ⟨fun _ => ⟨className, classed⟩, markup, marked⟩
  obtain ⟨classed, marked⟩ := others
  cases asked with
  | link configured =>
    rw [configured] at found
    exact settles_of_role ⟨address, found⟩
  | markup configured =>
    rw [configured] at marked
    exact settles_of_role marked
  | linkClass configured found' linked =>
    obtain rfl := Except.ok.inj (found.symm.trans found')
    rw [configured] at classed
    exact settles_of_role (classed linked)

namespace Table

def Shows (config : Config) (source : Source ν) (row : Row ν) : Prop :=
  source.rowCount none ≠ .ok 0 ∧
    ∃ cap deepest, config.rowCap = .ok cap ∧ ceiling config.maxDepth = .ok deepest ∧
      row ∈ (script source none 0 true deepest (some (Budget.ofLimit cap))).rows

/-- What a table looks up: markup for the headers, and roles of rows and cells. -/
inductive Asks (config : Config) (source : Source ν) : RoleQuestion ν → Prop
  | columnHeader {columns : Int} {column : Nat} {wanted : Value}
    (headed : config.columnHeaders = true) (width : source.columnCount none = .ok columns)
    (within : column < columns.toNat) (configured : config.htmlPrefixRole = some wanted) :
    Asks config source (.header .column (.int column) wanted)
  | rowHeader {row : Row ν} {wanted : Value} (shown : Shows config source row)
    (headed : config.rowHeaders = true) (configured : config.htmlPrefixRole = some wanted) :
    Asks config source (.header .row (.int row.number) wanted)
  | rowClass {row : Row ν} {first : ν} {wanted : Value} (shown : Shows config source row)
    (cell : source.cell (.int row.number) (.int 0) row.parent = .ok first)
    (configured : config.rowClassRole = some wanted) : Asks config source (.cell first wanted)
  | cell {row : Row ν} {columns column : Nat} {node : ν} {wanted : Value}
    (shown : Shows config source row) (width : source.columns row.parent = .ok columns)
    (within : column < columns)
    (cell : source.cell (.int row.number) (.int column) row.parent = .ok node)
    (asked : config.cellClassRole = some wanted ∨ TextRole config source node wanted) :
    Asks config source (.cell node wanted)

theorem Shows.withRoles {row : Row ν} (shown : Shows config source row) :
    Shows config (source.withRoles answers) row := by
  obtain ⟨begins, cap, deepest, capped, limited, among⟩ := shown
  refine ⟨begins, cap, deepest, capped, limited, ?_⟩
  rwa [script_withRoles]

theorem Asks.withRoles {question : RoleQuestion ν} (asks : Asks config source question)
    (same : source.roles.SameBut question answers) :
    Asks config (source.withRoles answers) question := by
  cases asks with
  | columnHeader headed width within configured =>
    exact .columnHeader headed width within configured
  | rowHeader shown headed configured => exact .rowHeader shown.withRoles headed configured
  | rowClass shown cell configured => exact .rowClass shown.withRoles cell configured
  | cell shown width within cell asked =>
    exact .cell shown.withRoles width within cell (asked.imp id fun text => text.withRoles same)

theorem settles_of_headerCells {wanted : Value} (configured : config.htmlPrefixRole = some wanted)
    {column left : Nat} (comes : Comes (headerCells config delegate source column left)) :
    ∀ index, column ≤ index → index < column + left →
      source.roles.Settles (.header .column (.int index) wanted) := by
  induction left generalizing column with
  | zero => exact fun index from' within => absurd within (by omega)
  | succ left ih =>
    obtain ⟨markup, marked, comes⟩ := comes.of_bind
    obtain ⟨header, -, comes⟩ := comes.of_bind
    obtain ⟨rest, others, -⟩ := comes.of_bind
    intro index from' within
    rcases Nat.eq_or_lt_of_le from' with rfl | later
    · rw [configured] at marked
      exact settles_of_headerRole ⟨markup, marked⟩
    · exact ih ⟨rest, others⟩ index later (by omega)

theorem comes_of_returns {refusal : Nat → Option Failure} {text : Value}
    (returns : ((⟨.htmlTable, config, delegate⟩ : Serializer).rendering refusal source).outcome =
      .ok text) :
    (∃ columns, source.columnCount none = .ok columns ∧
      Comes (head config delegate source columns.toNat)) ∧
    ∀ row, Shows config source row → Comes (rowMarkup config delegate source row) := by
  rw [outcome_eq] at returns
  obtain ⟨table, returns, -⟩ := map_eq_ok.mp returns
  obtain ⟨whole, returns, -⟩ := map_eq_ok.mp returns
  rw [render_eq, answer_of_bind] at returns
  obtain ⟨columns, width, returns⟩ := bind_eq_ok.mp returns
  dsimp only at returns
  rw [answer_of_bind] at returns
  obtain ⟨opening, opened, returns⟩ := bind_eq_ok.mp returns
  rw [answer_of_bind] at returns
  obtain ⟨rows, height, returns⟩ := bind_eq_ok.mp returns
  refine ⟨⟨columns, width, opening, opened⟩, ?_⟩
  rintro row ⟨begins, cap, deepest, capped, limited, among⟩
  have filled : rows ≠ 0 := by
    rintro rfl
    exact begins height
  rw [if_neg filled] at returns
  have comes := (filled_comes config delegate source _ opening refusal).2 whole returns
  rw [capped, ok_bind, rowByRow, limited, ok_bind] at comes
  obtain ⟨lines, mapped, -⟩ := bind_eq_ok.mp comes
  exact Comes.of_mapM ⟨lines, mapped⟩ row among

theorem settles_of_returns {refusal : Nat → Option Failure} {text : Value}
    (returns : ((⟨.htmlTable, config, delegate⟩ : Serializer).rendering refusal source).outcome =
      .ok text) {question : RoleQuestion ν} (asks : Asks config source question) :
    source.roles.Settles question := by
  obtain ⟨⟨columns, width, opened⟩, rows⟩ := comes_of_returns returns
  cases asks with
  | columnHeader headed width' within configured =>
    obtain rfl := Except.ok.inj (width.symm.trans width')
    obtain ⟨header, row, -⟩ := opened.of_bind
    rw [if_pos headed] at row
    obtain ⟨cells, told, -⟩ := Comes.of_bind ⟨header, row⟩
    exact settles_of_headerCells configured ⟨cells, told⟩ _ (Nat.zero_le _) (by omega)
  | rowHeader shown headed configured =>
    obtain ⟨columns, -, comes⟩ := (rows _ shown).of_bind
    obtain ⟨opening, begins, -⟩ := comes.of_bind
    obtain ⟨first, -, comes⟩ := Comes.of_bind ⟨opening, begins⟩
    obtain ⟨className, -, comes⟩ := comes.of_bind
    obtain ⟨header, told, -⟩ := comes.of_bind
    rw [if_pos headed] at told
    obtain ⟨markup, marked, -⟩ := Comes.of_bind ⟨header, told⟩
    rw [configured] at marked
    exact settles_of_headerRole ⟨markup, marked⟩
  | rowClass shown cell configured =>
    obtain ⟨columns, -, comes⟩ := (rows _ shown).of_bind
    obtain ⟨opening, begins, -⟩ := comes.of_bind
    rw [rowOpening, cell, ok_bind] at begins
    obtain ⟨className, classed, -⟩ := Comes.of_bind ⟨opening, begins⟩
    rw [configured] at classed
    exact settles_of_role ⟨className, classed⟩
  | cell shown width within cell asked =>
    have comes := rows _ shown
    rw [rowMarkup, width, ok_bind] at comes
    obtain ⟨opening, -, comes⟩ := comes.of_bind
    obtain ⟨cells, told, -⟩ := comes.of_bind
    have comes := Comes.of_mapM ⟨cells, told⟩ _ (List.mem_range.mpr within)
    rw [cellMarkup, cell, ok_bind] at comes
    obtain ⟨className, classed, comes⟩ := comes.of_bind
    obtain ⟨text, decorated, -⟩ := comes.of_bind
    rcases asked with configured | asked
    · rw [configured] at classed
      exact settles_of_role ⟨className, classed⟩
    · exact settles_of_decoratedText ⟨text, decorated⟩ cell asked

end Table

namespace Inline

inductive Asks (config : Config) (source : Source ν) : RoleQuestion ν → Prop
  | item {deepest : Int} {row : Row ν} {node : ν} {wanted : Value}
    (limited : ceiling config.maxDepth = .ok deepest)
    (among : row ∈ (script source none 0 false deepest none).rows)
    (cell : source.cell (.int row.number) config.displayedColumn row.parent = .ok node)
    (asked : TextRole config source node wanted) : Asks config source (.cell node wanted)

theorem Asks.withRoles {question : RoleQuestion ν} (asks : Asks config source question)
    (same : source.roles.SameBut question answers) :
    Asks config (source.withRoles answers) question := by
  cases asks with
  | item limited among cell asked =>
    refine .item limited ?_ cell (asked.withRoles same)
    rwa [script_withRoles]

theorem settles_of_returns {refusal : Nat → Option Failure} {text : Value}
    (returns : ((⟨.htmlSet, config, delegate⟩ : Serializer).rendering refusal source).outcome =
      .ok text) {question : RoleQuestion ν} (asks : Asks config source question) :
    source.roles.Settles question := by
  cases asks with
  | item limited among cell asked =>
    have comes := (outcome_comes config delegate source refusal).2 text returns
    rw [actByAct, limited, ok_bind] at comes
    obtain ⟨added, mapped, -⟩ := bind_eq_ok.mp comes
    obtain ⟨act, performed, isRow⟩ := List.mem_filterMap.mp among
    have comes := Comes.of_mapM ⟨added, mapped⟩ act performed
    cases act with
    | enter | close | leave => cases isRow
    | row row columns =>
      obtain rfl := Option.some.inj isRow
      obtain ⟨item, decorated, -⟩ := comes.of_bind
      exact settles_of_decoratedText ⟨item, decorated⟩ cell asked

end Inline

end Html

namespace Serializer

/-- What a render looks up. Only tables and inline runs of markup know of roles. -/
def Asks (serializer : Serializer) (source : Source ν) : RoleQuestion ν → Prop :=
  match serializer.format with
  | .htmlSet => Html.Inline.Asks serializer.config source
  | .htmlTable => Html.Table.Asks serializer.config source
  | .csv | .csvTree | .htmlList => fun _ => False

variable {serializer : Serializer} {source : Source ν} {question : RoleQuestion ν}

theorem Asks.withRoles {answers : RoleAnswers ν} (asks : serializer.Asks source question)
    (same : source.roles.SameBut question answers) :
    serializer.Asks (source.withRoles answers) question := by
  obtain ⟨format, config, delegate⟩ := serializer
  cases format with
  | csv | csvTree | htmlList => exact asks
  | htmlSet => exact Html.Inline.Asks.withRoles asks same
  | htmlTable => exact Html.Table.Asks.withRoles asks same

theorem settles_of_returns {refusal : Nat → Option Failure} {text : Value}
    (returns : (serializer.rendering refusal source).outcome = .ok text)
    (asks : serializer.Asks source question) : source.roles.Settles question := by
  obtain ⟨format, config, delegate⟩ := serializer
  cases format with
  | csv | csvTree | htmlList => exact asks.elim
  | htmlSet => exact Html.Inline.settles_of_returns returns asks
  | htmlTable => exact Html.Table.settles_of_returns returns asks

end Serializer

end TreeTable

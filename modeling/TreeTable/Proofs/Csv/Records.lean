import TreeTable.Proofs.Csv.Dialect
import TreeTable.Proofs.Csv.Table
import TreeTable.Proofs.Delegate

namespace TreeTable.Csv

variable {ν : Type}

/-- The options that tell a reader the dialect. -/
structure Dialect.Describes (dialect : Dialect) (config : Config) : Prop where
  quote : config.fieldQuote = dialect.quote.map fun quote => .text (String.ofList [quote])
  escape : config.escapeChar = dialect.escape.map fun escape => .text (String.ofList escape)
  separator : config.separator.getD (.text defaultSeparator) =
    .text (String.ofList dialect.separator)
  terminator : config.recordSeparator = .text (String.ofList dialect.terminator)

def character (c : Char) : Value := .text (String.ofList [c])

theorem members_text (text : String) :
    (Value.text text).members = .ok (text.toList.map character) := by
  have keys : (text.toList.map character).all Value.canBeKey = true := by
    simp [List.all_eq_true, character, Value.canBeKey]
  exact if_pos keys

theorem contains_character (chars : List Char) (c : Char) :
    (chars.map character).contains (character c) = chars.contains c := by
  induction chars with
  | nil => rfl
  | cons d chars ih =>
    have texts : (character c == character d) = (String.ofList [c] == String.ofList [d]) := by
      unfold character
      exact Value.same.eq_2 _ _
    have same : (character c == character d) = (c == d) := by
      rw [texts, Bool.eq_iff_iff, beq_iff_eq, beq_iff_eq, String.ofList_inj, List.singleton_inj]
    simp only [List.map_cons, List.contains_cons, same, ih]

def Dialect.format (dialect : Dialect) (config : Config) : FieldFormat where
  quote := config.fieldQuote
  escape := config.escapeChar
  replacement := config.replacementChar
  special := dialect.specials.map character

variable {dialect : Dialect} {config : Config}

theorem ofConfig_eq (describes : dialect.Describes config) :
    FieldFormat.ofConfig config (.text (String.ofList dialect.separator)) =
      .ok (dialect.format config) := by
  have quotes := describes.quote
  have escapes := describes.escape
  simp only [FieldFormat.ofConfig, Dialect.format, Dialect.specials, quotes, escapes,
    describes.terminator]
  cases dialect.escape <;> cases dialect.quote <;>
    simp only [Option.map_none, Option.map_some, members_text, String.toList_ofList, ok_bind,
      List.map_append] <;> rfl

theorem isSpecial_character (dialect : Dialect) (config : Config) (c : Char) :
    (dialect.format config).isSpecial (character c) = dialect.isSpecial c :=
  contains_character dialect.specials c

theorem join_escaped (describes : dialect.Describes config) {escape : List Char}
    (escapes : dialect.escape = some escape) (chars : List Char) :
    String.join <$> ((dialect.format config).escaped (chars.map character)).mapM
        (dialect.format config).partText =
      .ok (String.ofList (dialect.spell (chars.map .letter))) := by
  have guarded : (dialect.format config).partText .guard = .ok (String.ofList escape) := by
    simp [FieldFormat.partText, FieldFormat.guardText, Dialect.format, describes.escape, escapes,
      Value.asText]
  have kept : ∀ c, (dialect.format config).partText (.kept (character c)) =
      .ok (String.ofList [c]) := fun _ => rfl
  induction chars with
  | nil => rfl
  | cons c chars ih =>
    have more : (dialect.format config).escaped ((c :: chars).map character) =
        (if dialect.isSpecial c then [.guard, .kept (character c)] else [.kept (character c)]) ++
          (dialect.format config).escaped (chars.map character) := by
      rw [← isSpecial_character dialect config c]
      exact List.flatMap_cons
    have spelled : dialect.spell ((c :: chars).map .letter) =
        dialect.spellOne (.letter c) ++ dialect.spell (chars.map .letter) := List.flatMap_cons
    rw [more, spelled, Dialect.spellOne]
    cases dialect.isSpecial c with
    | true =>
      simp only [if_true, List.cons_append, List.nil_append, join_mapM_cons, guarded, kept, ih,
        ok_bind, escapes, Option.getD_some, String.ofList_append, String.append_assoc]
    | false =>
      rw [if_neg Bool.false_ne_true, if_neg Bool.false_ne_true, List.singleton_append,
        join_mapM_cons, kept, ok_bind, ih, ok_bind, String.ofList_append]

def Dialect.field (dialect : Dialect) (text : String) : Value :=
  .text (String.ofList (dialect.spell (dialect.fieldTokens text)))

/-- Fields are protected by writing other texts for theirs. An escape protects every text as it
is. -/
def Dialect.Protects (dialect : Dialect) (config : Config) (protect : String → String) : Prop :=
  ∀ text, (dialect.format config).write (.text text) = .ok (dialect.field (protect text))

theorem write_of_inside (describes : dialect.Describes config)
    (active : (dialect.format config).active = true) {text shown : String}
    (inside : String.join <$> ((dialect.format config).protect (text.toList.map character)).mapM
        (dialect.format config).partText =
      .ok (String.ofList (dialect.spell (shown.toList.map .letter)))) :
    (dialect.format config).write (.text text) = .ok (dialect.field shown) := by
  have around : ((dialect.format config).quote.getD (.text "")).asText =
      .ok (String.ofList dialect.quote.toList) := by
    rw [Dialect.format, describes.quote]
    cases dialect.quote <;> rfl
  have spelled : dialect.spell (dialect.fieldTokens shown) = dialect.quote.toList ++
      dialect.spell (shown.toList.map .letter) ++ dialect.quote.toList := by
    cases quote : dialect.quote <;>
      simp [Dialect.spell, Dialect.fieldTokens, Dialect.spellOne, quote]
  obtain ⟨parts, guarded, joined⟩ := map_eq_ok.mp inside
  rw [FieldFormat.write, if_pos active, members_text, ok_bind, guarded, ok_bind, around, ok_bind,
    joined, Dialect.field, spelled, String.ofList_append, String.ofList_append]
  rfl

theorem protects_of_escape (describes : dialect.Describes config)
    (escapes : dialect.escape.isSome) : dialect.Protects config id := by
  intro text
  obtain ⟨escape, escapes⟩ := Option.isSome_iff_exists.mp escapes
  have active : (dialect.format config).active = true := by
    simp [FieldFormat.active, Dialect.format, describes.escape, escapes]
  have protect : (dialect.format config).protect (text.toList.map character) =
      (dialect.format config).escaped (text.toList.map character) := by
    simp [FieldFormat.protect, Dialect.format, describes.escape, escapes]
  exact write_of_inside describes active (protect ▸ join_escaped describes escapes text.toList)

theorem spell_lineTokens (texts : List String) :
    dialect.spell (dialect.lineTokens texts) =
      dialect.separator.intercalate
        (texts.map fun text => dialect.spell (dialect.fieldTokens text)) := by
  unfold Dialect.lineTokens
  induction texts with
  | nil => rfl
  | cons text texts ih =>
    cases texts with
    | nil => simp
    | cons text' texts =>
      have separated : dialect.spell [Token.separator] = dialect.separator := by
        simp [Dialect.spell, Dialect.spellOne]
      rw [List.map_cons, List.map_cons, List.intercalate_cons_cons, Dialect.spell_append,
        Dialect.spell_append, separated, ← List.map_cons, ih]
      simp

def Dialect.line (dialect : Dialect) (texts : List String) : String :=
  String.ofList (dialect.spell (dialect.recordTokens texts))

theorem Dialect.write_eq_join (dialect : Dialect) (records : List (List String)) :
    dialect.write records = String.join (records.map dialect.line) := by
  unfold write
  induction records with
  | nil => rfl
  | cons record records ih =>
    rw [List.flatMap_cons, spell_append, String.ofList_append, ih, List.map_cons, String.join_cons]
    rfl

def Dialect.writer (dialect : Dialect) (config : Config) (delegate : Delegate) (nested : Bool) :
    Writer where
  config := config
  delegate := delegate
  nested := nested
  separator := .text (String.ofList dialect.separator)
  format := dialect.format config

@[simp] theorem Dialect.writer_config (dialect : Dialect) (config : Config) (delegate : Delegate)
    (nested : Bool) : (dialect.writer config delegate nested).config = config := rfl

theorem writer_eq (describes : dialect.Describes config) (delegate : Delegate) (nested : Bool) :
    Writer.ofConfig config delegate nested = .ok (dialect.writer config delegate nested) := by
  simp only [Writer.ofConfig, describes.separator, ofConfig_eq describes, ok_bind]
  rfl

theorem record_eq (describes : dialect.Describes config) (delegate : Delegate) (nested : Bool)
    (texts : List String) :
    (dialect.writer config delegate nested).record (texts.map dialect.field) =
      .ok (dialect.line texts) := by
  have fields : texts.map dialect.field = (texts.map fun text =>
      String.ofList (dialect.spell (dialect.fieldTokens text))).map Value.text := by
    rw [List.map_map]
    rfl
  have terminated : dialect.spell [Token.terminator] = dialect.terminator := by
    simp [Dialect.spell, Dialect.spellOne]
  have line : (String.ofList dialect.separator).intercalate (texts.map fun text =>
      String.ofList (dialect.spell (dialect.fieldTokens text))) ++ String.ofList dialect.terminator =
        dialect.line texts := by
    rw [← String.toList_inj, Dialect.line, Dialect.recordTokens, Dialect.spell_append,
      spell_lineTokens, terminated]
    simp [String.toList_intercalate, List.map_map, Function.comp_def]
  rw [Writer.record, Dialect.writer, fields, Value.join, Value.mapM_asText, describes.terminator,
    ← line]
  rfl

def HasTextHeaders (source : Source ν) : Prop :=
  ∀ axis index header, source.header axis index none = .ok header →
    header = .null ∨ ∃ text, header = .text text

theorem hasTextHeaders_tree (tree : Tree) : HasTextHeaders tree.source := by
  intro axis index header answered
  obtain ⟨found, -, answered⟩ := bind_eq_ok.mp answered
  obtain rfl := pure_eq_ok.mp answered
  cases found with
  | none => exact .inl rfl
  | some text => exact .inr ⟨text, rfl⟩

theorem text_of_headerShown {source : Source ν} (headers : HasTextHeaders source) {axis : Axis}
    {index header : Value} (answered : source.headerShown axis index = .ok header) :
    ∃ text, header = .text text := by
  obtain ⟨found, asked, answered⟩ := bind_eq_ok.mp answered
  rcases headers axis index found asked with rfl | ⟨text, rfl⟩
  · exact ⟨"", (pure_eq_ok.mp answered).symm⟩
  · exact ⟨text, (pure_eq_ok.mp answered).symm⟩

theorem text_of_withFront {front text joined : Value}
    (answered : Delegate.withFront front text = .ok joined) : ∃ whole, joined = .text whole := by
  obtain ⟨first, -, answered⟩ := bind_eq_ok.mp answered
  obtain ⟨second, -, answered⟩ := bind_eq_ok.mp answered
  exact ⟨first ++ second, (pure_eq_ok.mp answered).symm⟩

theorem text_of_convert {style : MarkupStyle} {text : String} {converted : Value}
    (answered : style.convert (.text text) = .ok converted) : ∃ text, converted = .text text := by
  have answered : Value.text <$> style.convertText text = .ok converted := answered
  cases conversion : style.convertText text with
  | error failure =>
    rw [conversion] at answered
    cases answered
  | ok text' =>
    rw [conversion] at answered
    exact ⟨text', (Except.ok.inj answered).symm⟩

theorem text_of_headerText {source : Source ν} (headers : HasTextHeaders source)
    {delegate : Delegate} {axis : Axis} {index header : Value}
    (answered : delegate.headerText source axis index = .ok header) :
    ∃ text, header = .text text := by
  cases delegate with
  | plain => exact text_of_headerShown headers answered
  | own texts =>
    obtain ⟨text, -, rfl⟩ := map_eq_ok.mp answered
    exact ⟨text, rfl⟩
  | markup style =>
    obtain ⟨shown, asked, answered⟩ := bind_eq_ok.mp answered
    obtain ⟨text, rfl⟩ := text_of_headerShown headers asked
    obtain ⟨converted, conversion, answered⟩ := bind_eq_ok.mp answered
    obtain ⟨front, -, answered⟩ := bind_eq_ok.mp answered
    have isText := text_of_convert conversion
    have fronted : ∃ given back, (∃ text, given = .text text) ∧
        (match back with
          | some back => Delegate.withFront given back
          | none => pure given) = .ok header := by
      cases front with
      | none =>
        obtain ⟨given, same, answered⟩ := bind_eq_ok.mp answered
        obtain rfl := pure_eq_ok.mp same
        obtain ⟨back, -, answered⟩ := bind_eq_ok.mp answered
        exact ⟨converted, back, isText, answered⟩
      | some front =>
        obtain ⟨given, joined, answered⟩ := bind_eq_ok.mp answered
        obtain ⟨back, -, answered⟩ := bind_eq_ok.mp answered
        exact ⟨given, back, text_of_withFront joined, answered⟩
    obtain ⟨given, back, isText, answered⟩ := fronted
    cases back with
    | none => exact pure_eq_ok.mp answered ▸ isText
    | some back => exact text_of_withFront answered

variable (config : Config) (delegate : Delegate) (source : Source ν) (nested : Bool)

def headerTexts : Except Failure (List String) := do
  let corner ← (if config.rowHeaders then do return [← config.topLeftHeader.asText] else .ok [])
  let columns ← source.columnCount none
  let texts ← (List.range columns.toNat).mapM fun column : Nat => do
    (← delegate.headerText source .column (.int column)).asText
  return corner ++ texts

def cellText (row : Walk.Row ν) (column : Nat) : Except Failure String := do
  let text ← delegate.text source row.parent (.int row.number) (.int column)
  let level :=
    if nested && column == 0 then String.ofList (List.replicate row.depth.toNat ' ') else ""
  return level ++ text

def rowTexts (row : Walk.Row ν) : Except Failure (List String) := do
  let columns ← source.columns row.parent
  let header ← (if config.rowHeaders then do
    return [← (← delegate.headerText source .row (.int row.number)).asText] else .ok [])
  let cells ← (List.range columns).mapM (cellText delegate source nested row)
  return header ++ cells

def headerRecords : Except Failure (List (List String)) :=
  if config.columnHeaders then do return [← headerTexts config delegate source] else .ok []

def records : Except Failure (List (List String)) := do
  let header ← headerRecords config delegate source
  let deepest ← Walk.ceiling config.maxDepth
  let rows ← Walk.visited source nested deepest
  let lines ← rows.mapM (rowTexts config delegate source nested)
  return header ++ lines

section

variable {config delegate source nested} {protect : String → String}

theorem headerField_eq (protects : dialect.Protects config protect)
    (headers : HasTextHeaders source) (delegate : Delegate) (nested : Bool) (axis : Axis)
    (index : Value) :
    (delegate.headerText source axis index >>= (dialect.writer config delegate nested).field) =
      (dialect.field ∘ protect) <$> (delegate.headerText source axis index >>= Value.asText) := by
  cases answered : delegate.headerText source axis index with
  | error failure => rfl
  | ok header =>
    obtain ⟨text, rfl⟩ := text_of_headerText headers answered
    exact protects text

theorem cellField_eq (protects : dialect.Protects config protect) (delegate : Delegate)
    (source : Source ν) (nested : Bool) (row : Walk.Row ν) (column : Nat) :
    (dialect.writer config delegate nested).cellField source row column =
      (dialect.field ∘ protect) <$> cellText delegate source nested row column := by
  unfold Writer.cellField cellText
  simp only [map_bind, map_pure]
  exact congrArg (delegate.text source row.parent (.int row.number) (.int column) >>= ·)
    (funext fun text => protects _)

theorem append_fields (first second : Except Failure (List String)) :
    (List.map (dialect.field ∘ protect) <$> first >>= fun header =>
      List.map (dialect.field ∘ protect) <$> second >>= fun cells => pure (header ++ cells)) =
      List.map (dialect.field ∘ protect) <$> (first >>= fun header => second >>= fun cells =>
        pure (header ++ cells)) := by
  cases first with
  | error failure => rfl
  | ok header =>
    cases second with
    | error failure => rfl
    | ok cells => exact congrArg Except.ok List.map_append.symm

theorem headerField_of_row_eq (protects : dialect.Protects config protect)
    (headers : HasTextHeaders source) (delegate : Delegate) (nested : Bool) (row : Walk.Row ν) :
    (if config.rowHeaders then
        (dialect.writer config delegate nested).headerField source row else .ok []) =
      List.map (dialect.field ∘ protect) <$> (if config.rowHeaders then do
        return [← (← delegate.headerText source .row (.int row.number)).asText] else .ok []) := by
  have field := congrArg (List.singleton <$> ·)
    (headerField_eq protects headers delegate nested .row (.int row.number))
  cases config.rowHeaders with
  | false => rfl
  | true =>
    simp only [map_eq_pure_bind, bind_assoc, pure_bind] at field
    simp only [if_true, map_eq_pure_bind, bind_assoc, pure_bind]
    exact field

theorem rowFields_eq (protects : dialect.Protects config protect) (headers : HasTextHeaders source)
    (row : Walk.Row ν) :
    (dialect.writer config delegate nested).rowFields source row =
      List.map (dialect.field ∘ protect) <$> rowTexts config delegate source nested row := by
  have header := headerField_of_row_eq protects headers delegate nested row
  have cells := mapM_map (cellField_eq protects delegate source nested row)
  unfold Writer.rowFields rowTexts
  rw [Dialect.writer_config]
  simp only [header, cells, append_fields, map_bind]

theorem record_of_fields (describes : dialect.Describes config) (protect : String → String)
    (delegate : Delegate) (nested : Bool) (before : List String)
    (given : Except Failure (List String)) :
    (List.map (dialect.field ∘ protect) <$> given >>= fun fields =>
        (dialect.writer config delegate nested).record
          (before.map (dialect.field ∘ protect) ++ fields)) =
      (dialect.line ∘ List.map protect) <$> (given >>= fun texts => pure (before ++ texts)) := by
  cases given with
  | error failure => rfl
  | ok texts =>
    have joined := record_eq describes delegate nested ((before ++ texts).map protect)
    rw [List.map_map, List.map_append] at joined
    exact joined

theorem rowLine_eq (describes : dialect.Describes config)
    (protects : dialect.Protects config protect) (headers : HasTextHeaders source)
    (row : Walk.Row ν) :
    (dialect.writer config delegate nested).rowLine source row =
      (dialect.line ∘ List.map protect) <$> rowTexts config delegate source nested row := by
  have line := record_of_fields describes protect delegate nested []
    (rowTexts config delegate source nested row)
  rw [← rowFields_eq protects headers row] at line
  rw [Writer.rowLine]
  simpa only [List.map_nil, List.nil_append, bind_pure] using line

theorem headerFields_eq (writer : Writer) (source : Source ν) (column left : Nat) :
    writer.headerFields source column left = (List.range' column left).mapM fun column : Nat =>
      writer.delegate.headerText source .column (.int column) >>= writer.field := by
  induction left generalizing column with
  | zero => rfl
  | succ left ih =>
    rw [Writer.headerFields, List.range'_succ, List.mapM_cons, ih, bind_assoc]

theorem headerLine_eq (describes : dialect.Describes config)
    (protects : dialect.Protects config protect) (headers : HasTextHeaders source)
    (corner : ∃ text, config.topLeftHeader = .text text) (delegate : Delegate) (nested : Bool) :
    (dialect.writer config delegate nested).headerLine source =
      (dialect.line ∘ List.map protect) <$> headerTexts config delegate source := by
  obtain ⟨text, corner⟩ := corner
  have fields := mapM_map fun column : Nat =>
    headerField_eq protects headers delegate nested .column (.int column)
  have line : ∀ before : List String,
      (source.columnCount none >>= fun columns =>
        (List.range columns.toNat).mapM (fun column : Nat =>
          delegate.headerText source .column (.int column) >>=
            (dialect.writer config delegate nested).field) >>= fun fields =>
        (dialect.writer config delegate nested).record
          (before.map (dialect.field ∘ protect) ++ fields)) =
      (dialect.line ∘ List.map protect) <$> (source.columnCount none >>= fun columns =>
        (List.range columns.toNat).mapM (fun column : Nat =>
          delegate.headerText source .column (.int column) >>= Value.asText) >>= fun texts =>
            pure (before ++ texts)) := by
    intro before
    rw [map_bind]
    refine congrArg (source.columnCount none >>= ·) (funext fun columns => ?_)
    rw [fields]
    exact record_of_fields describes protect delegate nested before _
  unfold Writer.headerLine headerTexts
  simp only [headerFields_eq, ← List.range_eq_range', Dialect.writer_config]
  cases config.rowHeaders with
  | false => exact line []
  | true =>
    have first : (dialect.writer config delegate nested).field config.topLeftHeader =
        .ok (dialect.field (protect text)) :=
      corner ▸ protects text
    have first' : config.topLeftHeader.asText = .ok text := corner ▸ rfl
    rw [if_pos rfl, if_pos rfl, first, first']
    exact line [text]

theorem eq_join_of_head (describes : dialect.Describes config)
    (protects : dialect.Protects config protect) (headers : HasTextHeaders source)
    (corner : ∃ text, config.topLeftHeader = .text text) {header : String}
    (headed : (dialect.writer config delegate nested).head source = .ok header) :
    ∃ first, headerRecords config delegate source = .ok first ∧
      String.join (first.map (dialect.line ∘ List.map protect)) = header := by
  have head : (dialect.writer config delegate nested).head source =
      if config.columnHeaders then
        (dialect.line ∘ List.map protect) <$> headerTexts config delegate source
      else .ok "" := by
    rw [← headerLine_eq describes protects headers corner delegate nested]
    rfl
  rw [head] at headed
  unfold headerRecords
  cases shown : config.columnHeaders with
  | false =>
    rw [shown] at headed
    exact ⟨[], rfl, Except.ok.inj headed⟩
  | true =>
    rw [shown, if_pos rfl] at headed
    obtain ⟨texts, told, rfl⟩ := map_eq_ok.mp headed
    refine ⟨[texts], ?_, by simp⟩
    rw [if_pos rfl, told]
    rfl

theorem eq_write_of_output (describes : dialect.Describes config)
    (protects : dialect.Protects config protect) (headers : HasTextHeaders source)
    (corner : ∃ text, config.topLeftHeader = .text text) {text : String}
    (returns : output config delegate source nested = .ok (.text text)) :
    ∃ all, records config delegate source nested = .ok all ∧
      text = dialect.write (all.map (List.map protect)) := by
  rw [output, writer_eq describes, ok_bind] at returns
  obtain ⟨header, headed, returns⟩ := bind_eq_ok.mp returns
  obtain ⟨deepest, limited, returns⟩ := bind_eq_ok.mp returns
  obtain ⟨lines, mapped, returns⟩ := bind_eq_ok.mp returns
  obtain ⟨left, ends, returns⟩ := bind_eq_ok.mp returns
  have whole := Value.text.inj (pure_eq_ok.mp returns)
  obtain ⟨first, told, rfl⟩ := eq_join_of_head describes protects headers corner headed
  rw [mapM_map (rowLine_eq describes protects headers), map_eq_ok] at mapped
  obtain ⟨rest, mapped, rfl⟩ := mapped
  change Walk.ceiling config.maxDepth = .ok deepest at limited
  change (Walk.script source none 0 nested deepest none).ends = .ok left at ends
  have visited := Walk.visited_eq_script source nested deepest
  rw [ends, ok_bind] at visited
  refine ⟨first ++ rest, ?_, ?_⟩
  · rw [records, told, ok_bind, limited, ok_bind, visited, ok_bind]
    exact congrArg (· >>= fun lines => .ok (first ++ lines)) mapped
  · rw [Dialect.write_eq_join, List.map_map, List.map_append, String.join_append, whole]

end

theorem read_of_output {dialect : Dialect} {config : Config} (describes : dialect.Describes config)
    (clear : dialect.Clear) (escapes : dialect.escape.isSome)
    (corner : ∃ text, config.topLeftHeader = .text text) {delegate : Delegate} {source : Source ν}
    (headers : HasTextHeaders source) {nested : Bool} {text : String}
    (returns : output config delegate source nested = .ok (.text text)) :
    ∃ all, records config delegate source nested = .ok all ∧
      ((dialect.quote = none → ∀ record ∈ all, record ≠ []) → dialect.read text = all) := by
  obtain ⟨all, told, rfl⟩ :=
    eq_write_of_output describes (protects_of_escape describes escapes) headers corner returns
  rw [List.map_id_fun, List.map_id]
  refine ⟨all, told, fun nonempty => Dialect.read_write clear ?_ nonempty⟩
  intro record _ field _ bare
  rw [bare] at escapes
  cases escapes

/-- Who knows the dialect and nothing else reads from a table, whatever is in it, exactly its
records: the column headers, if they are shown, and the rows that a walk comes to. Only without
quotes a record without fields is read as one with an empty field. -/
theorem read_rendering {dialect : Dialect} {config : Config} (describes : dialect.Describes config)
    (clear : dialect.Clear) (escapes : dialect.escape.isSome)
    (corner : ∃ text, config.topLeftHeader = .text text) (delegate : Delegate) {source : Source ν}
    (headers : HasTextHeaders source) (nested : Bool) (refusal : Nat → Option Failure)
    {text : String}
    (returns : ((⟨format nested, config, delegate⟩ : Serializer).rendering refusal source).outcome =
      .ok (.text text)) :
    ∃ all, records config delegate source nested = .ok all ∧
      ((dialect.quote = none → ∀ record ∈ all, record ≠ []) → dialect.read text = all) :=
  read_of_output describes clear escapes corner headers
    ((rendering_comes config delegate source nested refusal).2 _ returns)

def doubling : Dialect where
  quote := some '"'
  escape := some ['"']
  separator := [';']
  terminator := ['\n']

def doubledQuotes : Config where
  fieldQuote := some (.text "\"")
  escapeChar := some (.text "\"")

def quotedRows : Tree where
  headers := #["N"]
  items := [⟨#[.text "\""], [⟨#[.text ";"], [], []⟩], []⟩]

theorem read_quotedRows :
    doubling.read "\"N\"\n\"\"\"\"\n\" ;\"\n" = [["N"], ["\""], [" ;"]] := by
  have describes : doubling.Describes doubledQuotes := ⟨rfl, rfl, rfl, rfl⟩
  have clear : doubling.Clear := by
    refine ⟨⟨by decide, by decide⟩, ?_, (fun bare => nomatch bare), fun _ => ?_⟩
    · simp [doubling]
    · simp [doubling]
  have returns : ((⟨format true, doubledQuotes, .plain⟩ : Serializer).rendering (fun _ => none)
      quotedRows.source).outcome = .ok (.text "\"N\"\n\"\"\"\"\n\" ;\"\n") := rfl
  obtain ⟨all, told, read⟩ := read_rendering describes clear rfl ⟨"", rfl⟩ .plain
    (hasTextHeaders_tree quotedRows) true (fun _ => none) returns
  have records : records doubledQuotes .plain quotedRows.source true =
      .ok [["N"], ["\""], [" ;"]] := rfl
  rw [records] at told
  obtain rfl := Except.ok.inj told
  exact read fun bare => nomatch bare

end TreeTable.Csv

import Mathlib.Data.List.SplitBy
import TreeTable.Proofs.Csv.Records

namespace TreeTable.Csv

section

variable (isSpecial : Char → Bool) (replacement : List Char)

def replaceRuns (text : List Char) : List Char :=
  (text.splitBy fun c d => isSpecial c == isSpecial d).flatMap fun run =>
    if run.all isSpecial then replacement else run

variable {isSpecial replacement}

theorem replaceRuns_append {kind : Bool} {run rest : List Char} (begun : run ≠ [])
    (alike : ∀ c ∈ run, isSpecial c = kind) (ends : ∀ c ∈ rest.head?, isSpecial c ≠ kind) :
    replaceRuns isSpecial replacement (run ++ rest) =
      (if kind then replacement else run) ++ replaceRuns isSpecial replacement rest := by
  have chain : run.IsChain fun c d => (isSpecial c == isSpecial d) = true := by
    refine (List.pairwise_of_forall_mem_list fun c among d among' => ?_).isChain
    rw [alike c among, alike d among', beq_self_eq_true]
  have apart : ∀ c ∈ run.getLast?, ∀ d ∈ rest.head?, (isSpecial c == isSpecial d) = false := by
    intro c last d head
    rw [alike c (List.mem_of_mem_getLast? last), beq_eq_false_iff_ne]
    exact (ends d head).symm
  have all : run.all isSpecial = kind := by
    cases kind with
    | true => exact List.all_eq_true.mpr alike
    | false =>
      obtain ⟨c, among⟩ := List.exists_mem_of_ne_nil run begun
      exact List.all_eq_false.mpr ⟨c, among, ne_true_of_eq_false (alike c among)⟩
  rw [replaceRuns, List.splitBy_append apart, List.splitBy_of_isChain begun chain,
    List.flatMap_append, List.flatMap_singleton, all]
  rfl

theorem exists_run (kind : Bool) (text : List Char) : ∃ run rest,
    text = run ++ rest ∧ (∀ c ∈ run, isSpecial c = kind) ∧
      ∀ c ∈ rest.head?, isSpecial c ≠ kind := by
  refine ⟨text.takeWhile fun c => isSpecial c == kind, text.dropWhile fun c => isSpecial c == kind,
    List.takeWhile_append_dropWhile.symm, fun c among => ?_, fun c head => ?_⟩
  · exact eq_of_beq (List.all_eq_true.mp List.all_takeWhile c among)
  · have stopped := List.head?_dropWhile_not (fun c => isSpecial c == kind) text
    rw [Option.mem_def.mp head] at stopped
    exact beq_eq_false_iff_ne.mp stopped

theorem replaceRuns_cons_special {c : Char} (special : isSpecial c = true) (rest : List Char) :
    replaceRuns isSpecial replacement (c :: rest) =
      replacement ++ replaceRuns isSpecial replacement (rest.dropWhile isSpecial) := by
  obtain ⟨run, after, rfl, alike, ends⟩ := exists_run true rest
  have dropped : after.dropWhile isSpecial = after := by
    cases after with
    | nil => rfl
    | cons d after => exact List.dropWhile_cons_of_neg (ends d rfl)
  rw [List.dropWhile_append_of_pos alike, dropped]
  exact replaceRuns_append (List.cons_ne_nil c run) (List.forall_mem_cons.mpr ⟨special, alike⟩) ends

theorem replaceRuns_cons_plain {c : Char} (plain : isSpecial c = false) (rest : List Char) :
    replaceRuns isSpecial replacement (c :: rest) =
      c :: replaceRuns isSpecial replacement rest := by
  obtain ⟨run, after, rfl, alike, ends⟩ := exists_run false rest
  have longer : replaceRuns isSpecial replacement (c :: run ++ after) =
      c :: run ++ replaceRuns isSpecial replacement after :=
    replaceRuns_append (List.cons_ne_nil c run) (List.forall_mem_cons.mpr ⟨plain, alike⟩) ends
  have shorter : replaceRuns isSpecial replacement (run ++ after) =
      run ++ replaceRuns isSpecial replacement after := by
    rcases eq_or_ne run [] with rfl | begun
    · rfl
    · exact replaceRuns_append begun alike ends
  rw [shorter]
  exact longer

variable (isSpecial) in
theorem induction_on_runs {motive : List Char → Prop} (nil : motive [])
    (plain : ∀ c rest, isSpecial c = false → motive rest → motive (c :: rest))
    (run : ∀ c rest, isSpecial c = true → motive (rest.dropWhile isSpecial) → motive (c :: rest))
    (text : List Char) : motive text := by
  -- behind a special character what is left is a shorter text, though not the next one
  suffices both : motive text ∧ motive (text.dropWhile isSpecial) from both.1
  induction text with
  | nil => exact ⟨nil, nil⟩
  | cons c rest ih =>
    cases special : isSpecial c with
    | true =>
      rw [List.dropWhile_cons_of_pos special]
      exact ⟨run c rest special ih.2, ih.2⟩
    | false =>
      rw [List.dropWhile_cons_of_neg (ne_true_of_eq_false special)]
      exact ⟨plain c rest special ih.1, plain c rest special ih.1⟩

theorem isSpecial_replaceRuns (clean : ∀ c ∈ replacement, isSpecial c = false) (text : List Char) :
    ∀ c ∈ replaceRuns isSpecial replacement text, isSpecial c = false := by
  induction text using induction_on_runs isSpecial with
  | nil => exact nofun
  | plain c rest plain ih =>
    rw [replaceRuns_cons_plain plain]
    exact List.forall_mem_cons.mpr ⟨plain, ih⟩
  | run c rest special ih =>
    rw [replaceRuns_cons_special special]
    exact List.forall_mem_append.mpr ⟨clean, ih⟩

theorem replaceRuns_of_plain {text : List Char} (plain : ∀ c ∈ text, isSpecial c = false) :
    replaceRuns isSpecial replacement text = text := by
  induction text with
  | nil => rfl
  | cons c rest ih =>
    obtain ⟨first, others⟩ := List.forall_mem_cons.mp plain
    rw [replaceRuns_cons_plain first, ih others]

theorem replaceRuns_empty (text : List Char) :
    replaceRuns isSpecial [] text = text.filter fun c => !isSpecial c := by
  induction text using induction_on_runs isSpecial with
  | nil => rfl
  | plain c rest plain ih =>
    rw [replaceRuns_cons_plain plain, ih, List.filter_cons_of_pos (by rw [plain]; rfl)]
  | run c rest special ih =>
    have skipped : (rest.takeWhile isSpecial).filter (fun c => !isSpecial c) = [] := by
      refine List.filter_eq_nil_iff.mpr fun d among => ?_
      rw [List.all_eq_true.mp List.all_takeWhile d among]
      exact Bool.false_ne_true
    have left : rest.filter (fun c => !isSpecial c) =
        (rest.dropWhile isSpecial).filter fun c => !isSpecial c := by
      rw [← List.nil_append (List.filter _ (rest.dropWhile isSpecial)), ← skipped,
        ← List.filter_append, List.takeWhile_append_dropWhile]
    rw [replaceRuns_cons_special special, List.nil_append, ih,
      List.filter_cons_of_neg (by rw [special]; exact Bool.false_ne_true), left]

def replaced (isSpecial : Char → Bool) (replacement : List Char) (text : String) : String :=
  String.ofList (replaceRuns isSpecial replacement text.toList)

end

theorem join_collapse {format : FieldFormat} {isSpecial : Char → Bool} {replacement : List Char}
    (guards : format.guardText = .ok (String.ofList replacement))
    (specials : ∀ c, format.isSpecial (character c) = isSpecial c) (inRun : Bool)
    (chars : List Char) :
    String.join <$> (format.collapse inRun (chars.map character)).mapM format.partText =
      .ok (String.ofList (replaceRuns isSpecial replacement
        (if inRun then chars.dropWhile isSpecial else chars))) := by
  have guarded : format.partText .guard = .ok (String.ofList replacement) := guards
  have kept : ∀ c, format.partText (.kept (character c)) = .ok (String.ofList [c]) := fun _ => rfl
  induction chars generalizing inRun with
  | nil => cases inRun <;> rfl
  | cons c chars ih =>
    rw [List.map_cons, FieldFormat.collapse, specials]
    cases special : isSpecial c with
    | true =>
      rw [if_pos rfl]
      cases inRun with
      | true =>
        rw [if_pos rfl, if_pos rfl, List.nil_append, ih, if_pos rfl,
          List.dropWhile_cons_of_pos special]
      | false =>
        rw [if_neg Bool.false_ne_true, if_neg Bool.false_ne_true, List.singleton_append,
          join_mapM_cons, guarded, ok_bind, ih, if_pos rfl, ok_bind,
          replaceRuns_cons_special special, String.ofList_append]
    | false =>
      have same : replaceRuns isSpecial replacement
          (if inRun then (c :: chars).dropWhile isSpecial else c :: chars) =
            c :: replaceRuns isSpecial replacement chars := by
        cases inRun with
        | true =>
          rw [if_pos rfl, List.dropWhile_cons_of_neg (ne_true_of_eq_false special),
            replaceRuns_cons_plain special]
        | false => exact replaceRuns_cons_plain special chars
      rw [if_neg Bool.false_ne_true, join_mapM_cons, kept, ok_bind, ih,
        if_neg Bool.false_ne_true, ok_bind, same, ← String.ofList_append]
      rfl

theorem join_kept (format : FieldFormat) (chars : List Char) :
    String.join <$> ((chars.map character).map Part.kept).mapM format.partText =
      .ok (String.ofList chars) := by
  induction chars with
  | nil => rfl
  | cons c chars ih =>
    have kept : format.partText (.kept (character c)) = .ok (String.ofList [c]) := rfl
    rw [List.map_cons, List.map_cons, join_mapM_cons, kept, ok_bind, ih, ok_bind,
      ← String.ofList_append]
    rfl

variable {dialect : Dialect} {config : Config} {replacement : List Char}

theorem spell_letters (unescaped : dialect.escape = none) (chars : List Char) :
    dialect.spell (chars.map .letter) = chars := by
  simp [Dialect.spell, Dialect.spellOne, unescaped, List.flatMap_map]

theorem protects_of_replacement (describes : dialect.Describes config)
    (unescaped : dialect.escape = none)
    (replaces : config.replacementChar.getD (.text "") = .text (String.ofList replacement))
    (active : dialect.quote.isSome ∨ replacement ≠ []) :
    dialect.Protects config (replaced dialect.isSpecial replacement) := by
  intro text
  have escape : (dialect.format config).escape = none := by
    rw [Dialect.format, describes.escape, unescaped]
    rfl
  have nothing : config.replacementChar = none → replacement = [] := by
    intro unset
    rw [unset] at replaces
    exact (String.ofList_inj.mp (Value.text.inj replaces)).symm
  have isActive : (dialect.format config).active = true := by
    rw [FieldFormat.active, escape]
    rcases active with quoted | replacing
    · obtain ⟨quote, quotes⟩ := Option.isSome_iff_exists.mp quoted
      simp [Dialect.format, describes.quote, quotes]
    · obtain ⟨value, set⟩ := Option.ne_none_iff_exists'.mp fun unset => replacing (nothing unset)
      simp [Dialect.format, set]
  have guards : (dialect.format config).guardText = .ok (String.ofList replacement) := by
    rw [FieldFormat.guardText, escape, Dialect.format]
    exact congrArg Value.asText replaces
  have specials := isSpecial_character dialect config
  refine write_of_inside describes isActive ?_
  rw [spell_letters unescaped, replaced, String.toList_ofList, FieldFormat.protect, escape,
    Option.isSome_none, if_neg Bool.false_ne_true]
  cases set : (dialect.format config).replacement with
  | some value => exact join_collapse guards specials false text.toList
  | none =>
    have dropped : (text.toList.map character).filter
        (fun c => !(dialect.format config).isSpecial c) =
          (text.toList.filter fun c => !dialect.isSpecial c).map character := by
      simp only [List.filter_map, Function.comp_def, specials]
    rw [Option.isSome_none, if_neg Bool.false_ne_true, dropped, join_kept, nothing set,
      replaceRuns_empty]

theorem write_field (describes : dialect.Describes config) (unescaped : dialect.escape = none)
    (bare : dialect.quote = none)
    (replaces : config.replacementChar.getD (.text "") = .text (String.ofList replacement))
    (replacing : replacement ≠ []) (clean : ∀ c ∈ replacement, dialect.isSpecial c = false)
    (text : String) : ∃ written, (dialect.format config).write (.text text) = .ok written ∧
      (dialect.format config).write written = .ok written := by
  have protects := protects_of_replacement describes unescaped replaces (.inr replacing)
  have field : ∀ shown, dialect.field shown = .text shown := by
    intro shown
    have tokens : dialect.fieldTokens shown = shown.toList.map .letter := by
      simp [Dialect.fieldTokens, bare]
    rw [Dialect.field, tokens, spell_letters unescaped, String.ofList_toList]
  have again : replaced dialect.isSpecial replacement
      (replaced dialect.isSpecial replacement text) =
        replaced dialect.isSpecial replacement text := by
    rw [replaced, replaced, String.toList_ofList,
      replaceRuns_of_plain (isSpecial_replaceRuns clean text.toList)]
  refine ⟨_, protects text, ?_⟩
  rw [field, protects, again, field]

theorem Dialect.clear_of_unescaped (unescaped : dialect.escape = none)
    (apart : Dialect.Apart dialect.separator dialect.terminator)
    (quotes : ∀ quote ∈ dialect.quote, quote ∉ dialect.separator ∧ quote ∉ dialect.terminator) :
    dialect.Clear := by
  refine ⟨apart, quotes, fun _ escape escapes => ?_, fun _ escape escapes => ?_⟩ <;>
  · rw [unescaped] at escapes
    cases escapes

theorem Dialect.isSpecial_of_quote {quote : Char} (quotes : dialect.quote = some quote)
    (unescaped : dialect.escape = none) : dialect.isSpecial = (· == quote) := by
  funext c
  simp [Dialect.isSpecial, Dialect.specials, unescaped, quotes, beq_eq_decide]

theorem Dialect.isSpecial_of_bare (bare : dialect.quote = none) (unescaped : dialect.escape = none) :
    dialect.isSpecial = (dialect.separator ++ dialect.terminator).contains := by
  funext c
  simp [Dialect.isSpecial, Dialect.specials, unescaped, bare]

variable {ν : Type} {delegate : Delegate} {source : Source ν} {nested : Bool}

theorem read_of_output_replaced (describes : dialect.Describes config) (clear : dialect.Clear)
    (unescaped : dialect.escape = none)
    (replaces : config.replacementChar.getD (.text "") = .text (String.ofList replacement))
    (active : dialect.quote.isSome ∨ replacement ≠ [])
    (clean : ∀ c ∈ replacement, dialect.isSpecial c = false)
    (corner : ∃ text, config.topLeftHeader = .text text) (headers : HasTextHeaders source)
    {text : String} (returns : output config delegate source nested = .ok (.text text)) :
    ∃ all, records config delegate source nested = .ok all ∧
      ((dialect.quote = none → ∀ record ∈ all, record ≠ []) → dialect.read text =
        all.map (List.map (replaced dialect.isSpecial replacement))) := by
  have protects := protects_of_replacement describes unescaped replaces active
  obtain ⟨all, told, rfl⟩ := eq_write_of_output describes protects headers corner returns
  refine ⟨all, told, fun nonempty => Dialect.read_write clear ?_ ?_⟩
  · intro record among field within _
    obtain ⟨texts, -, rfl⟩ := List.mem_map.mp among
    obtain ⟨text, -, rfl⟩ := List.mem_map.mp within
    rw [replaced, String.toList_ofList]
    exact isSpecial_replaceRuns clean text.toList
  · intro bare record among
    obtain ⟨texts, within, rfl⟩ := List.mem_map.mp among
    exact List.map_eq_nil_iff.not.mpr (nonempty bare texts within)

/-- Without an escape a reader finds as many records as there are, with as many fields each.
- In quotes each run of quotes in a field has given way to the replacement, or is left out if there
  is none.
- Without quotes, and with a replacement that has nothing in common with the separators, so has each
  run of their characters, and a field that has been written once is written again as it is. -/
theorem read_rendering_without_escape (describes : dialect.Describes config)
    (unescaped : dialect.escape = none) (apart : Dialect.Apart dialect.separator dialect.terminator)
    (replaces : config.replacementChar.getD (.text "") = .text (String.ofList replacement))
    (corner : ∃ text, config.topLeftHeader = .text text) (delegate : Delegate)
    (headers : HasTextHeaders source) (nested : Bool) (refusal : Nat → Option Failure)
    {text : String}
    (returns : ((⟨format nested, config, delegate⟩ : Serializer).rendering refusal source).outcome =
      .ok (.text text)) :
    (∀ quote, dialect.quote = some quote → quote ∉ dialect.separator →
        quote ∉ dialect.terminator → quote ∉ replacement →
      ∃ all, records config delegate source nested = .ok all ∧
        dialect.read text = all.map (List.map (replaced (· == quote) replacement))) ∧
    (dialect.quote = none → replacement ≠ [] →
        (∀ c ∈ replacement, c ∉ dialect.separator ∧ c ∉ dialect.terminator) →
      (∃ all, records config delegate source nested = .ok all ∧
        ((∀ record ∈ all, record ≠ []) → dialect.read text = all.map (List.map
          (replaced (dialect.separator ++ dialect.terminator).contains replacement)))) ∧
      ∃ format, FieldFormat.ofConfig config (config.separator.getD (.text defaultSeparator)) =
          .ok format ∧
        ∀ field, ∃ written, format.write (.text field) = .ok written ∧
          format.write written = .ok written) := by
  have put := (rendering_comes config delegate source nested refusal).2 _ returns
  constructor
  · intro quote quotes notSeparator notTerminator notReplacement
    have special := Dialect.isSpecial_of_quote quotes unescaped
    have clean : ∀ c ∈ replacement, dialect.isSpecial c = false := by
      intro c among
      rw [special]
      exact beq_eq_false_iff_ne.mpr fun same => notReplacement (same ▸ among)
    have quoted : ∀ q ∈ dialect.quote, q ∉ dialect.separator ∧ q ∉ dialect.terminator := by
      intro q same
      obtain rfl := Option.some.inj (quotes.symm.trans same)
      exact ⟨notSeparator, notTerminator⟩
    have active : dialect.quote.isSome ∨ replacement ≠ [] := .inl (by rw [quotes]; rfl)
    obtain ⟨all, told, read⟩ := read_of_output_replaced describes
      (Dialect.clear_of_unescaped unescaped apart quoted) unescaped replaces active clean corner
      headers put
    rw [special] at read
    refine ⟨all, told, read fun bare => ?_⟩
    rw [bare] at quotes
    cases quotes
  · intro bare replacing other
    have special := Dialect.isSpecial_of_bare bare unescaped
    have clean : ∀ c ∈ replacement, dialect.isSpecial c = false := by
      intro c among
      rw [special]
      simpa using other c among
    have unquoted : ∀ q ∈ dialect.quote, q ∉ dialect.separator ∧ q ∉ dialect.terminator := by
      intro q same
      cases bare.symm.trans same
    obtain ⟨all, told, read⟩ := read_of_output_replaced describes
      (Dialect.clear_of_unescaped unescaped apart unquoted) unescaped replaces (.inr replacing)
      clean corner headers put
    rw [special] at read
    refine ⟨⟨all, told, fun nonempty => read fun _ => nonempty⟩, dialect.format config, ?_, ?_⟩
    · rw [describes.separator, ofConfig_eq describes]
    · exact write_field describes unescaped bare replaces replacing clean

def quoting : Dialect where
  quote := some '"'
  escape := none
  separator := [';']
  terminator := ['\n']

def apostrophes : Config where
  fieldQuote := some (.text "\"")
  replacementChar := some (.text "'")

def spaced : Dialect where
  quote := none
  escape := none
  separator := [',', ' ']
  terminator := ['\n']

def underscores : Config where
  separator := some (.text ", ")
  replacementChar := some (.text "_")

def runningRows : Tree where
  headers := #["N"]
  items := [⟨#[.text "\"\""], [⟨#[.text ","], [], []⟩], []⟩]

theorem read_runningRows :
    quoting.read "\"N\"\n\"'\"\n\" ,\"\n" = [["N"], ["'"], [" ,"]] ∧
      spaced.read "N\n\"\"\n_\n" = [["N"], ["\"\""], ["_"]] := by
  have headers := hasTextHeaders_tree runningRows
  constructor
  · have describes : quoting.Describes apostrophes := ⟨rfl, rfl, rfl, rfl⟩
    have replaces : apostrophes.replacementChar.getD (.text "") =
        .text (String.ofList ['\'']) := rfl
    have returns : ((⟨format true, apostrophes, .plain⟩ : Serializer).rendering (fun _ => none)
        runningRows.source).outcome = .ok (.text "\"N\"\n\"'\"\n\" ,\"\n") := rfl
    obtain ⟨quoted, -⟩ := read_rendering_without_escape describes rfl ⟨by decide, by decide⟩
      replaces ⟨"", rfl⟩ .plain headers true (fun _ => none) returns
    obtain ⟨all, told, read⟩ := quoted '"' rfl (by decide) (by decide) (by decide)
    have records : records apostrophes .plain runningRows.source true =
        .ok [["N"], ["\"\""], [" ,"]] := rfl
    rw [records] at told
    obtain rfl := Except.ok.inj told
    exact read
  · have describes : spaced.Describes underscores := ⟨rfl, rfl, rfl, rfl⟩
    have replaces : underscores.replacementChar.getD (.text "") =
        .text (String.ofList ['_']) := rfl
    have returns : ((⟨format true, underscores, .plain⟩ : Serializer).rendering (fun _ => none)
        runningRows.source).outcome = .ok (.text "N\n\"\"\n_\n") := rfl
    obtain ⟨-, bare⟩ := read_rendering_without_escape describes rfl ⟨by decide, by decide⟩
      replaces ⟨"", rfl⟩ .plain headers true (fun _ => none) returns
    obtain ⟨⟨all, told, read⟩, -⟩ := bare rfl (by decide) (by simp [spaced])
    have records : records underscores .plain runningRows.source true =
        .ok [["N"], ["\"\""], [" ,"]] := rfl
    rw [records] at told
    obtain rfl := Except.ok.inj told
    exact read (by decide)

end TreeTable.Csv

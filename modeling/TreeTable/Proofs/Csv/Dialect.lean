/-!
Reading delimited text back. A text is read as tokens, the tokens are cut into records at the
terminators, and each record into fields at the separators. What a reader has to know of the writer
is its dialect.
-/

namespace TreeTable.Csv

structure Dialect where
  quote : Option Char
  escape : Option (List Char)
  separator : List Char
  terminator : List Char

inductive Token where
  | letter (c : Char)
  | quote
  | separator
  | terminator
deriving DecidableEq

def Token.letter? : Token → Option Char
  | .letter c => some c
  | _ => none

namespace Dialect

section

variable (dialect : Dialect)

def specials : List Char :=
  dialect.escape.getD [] ++
    match dialect.quote with
    | some quote => [quote]
    | none => dialect.separator ++ dialect.terminator

def isSpecial (c : Char) : Bool := dialect.specials.contains c

/-! ## Writing -/

def spellOne : Token → List Char
  | .letter c => if dialect.isSpecial c then dialect.escape.getD [] ++ [c] else [c]
  | .quote => dialect.quote.toList
  | .separator => dialect.separator
  | .terminator => dialect.terminator

def spell (tokens : List Token) : List Char := tokens.flatMap dialect.spellOne

def fieldTokens (text : String) : List Token :=
  let around := if dialect.quote.isSome then [Token.quote] else []
  around ++ text.toList.map .letter ++ around

def lineTokens (fields : List String) : List Token :=
  [Token.separator].intercalate (fields.map dialect.fieldTokens)

def recordTokens (fields : List String) : List Token := dialect.lineTokens fields ++ [.terminator]

def write (records : List (List String)) : String :=
  String.ofList (dialect.spell (records.flatMap dialect.recordTokens))

/-! ## Reading -/

def escaped? (text : List Char) : Option (Char × List Char) :=
  match dialect.escape with
  | none => none
  | some escape =>
    if escape.isPrefixOf text then
      match text.drop escape.length with
      | [] => none
      | c :: rest => if dialect.isSpecial c then some (c, rest) else none
    else none

def nextInField (text : List Char) : Option (Token × List Char) :=
  match dialect.escaped? text with
  | some (c, rest) => some (.letter c, rest)
  | none =>
    match text with
    | [] => none
    | c :: rest => if dialect.quote = some c then some (.quote, rest) else some (.letter c, rest)

def next (inside : Bool) (text : List Char) : Option (Token × List Char) :=
  if inside then dialect.nextInField text
  else if dialect.separator.isPrefixOf text then
    some (.separator, text.drop dialect.separator.length)
  else if dialect.terminator.isPrefixOf text then
    some (.terminator, text.drop dialect.terminator.length)
  else if dialect.quote.isSome then
    match text with
    | [] => none
    | c :: rest => if dialect.quote = some c then some (.quote, rest) else none
  else dialect.nextInField text

def scan (inside : Bool) (text : List Char) : List Token :=
  match dialect.next inside text with
  | none => []
  | some (token, rest) =>
    if rest.length < text.length then
      token :: scan (if token = .quote then !inside else inside) rest
    else []
termination_by text.length

def recordOf (tokens : List Token) : List String :=
  if dialect.quote.isSome && tokens.isEmpty then []
  else (tokens.splitOn .separator).map fun field => String.ofList (field.filterMap Token.letter?)

def read (text : String) : List (List String) :=
  (((dialect.scan false text.toList).splitOn .terminator).dropLast).map dialect.recordOf

end

def Apart (first second : List Char) : Prop := ¬first <+: second ∧ ¬second <+: first

structure Clear (dialect : Dialect) : Prop where
  separators : Apart dialect.separator dialect.terminator
  quote : ∀ quote ∈ dialect.quote, quote ∉ dialect.separator ∧ quote ∉ dialect.terminator
  bare : dialect.quote = none → ∀ escape ∈ dialect.escape,
    Apart escape dialect.separator ∧ Apart escape dialect.terminator
  quoted : dialect.quote.isSome → ∀ escape ∈ dialect.escape,
    ∃ c, escape = [c] ∧ c ∉ dialect.separator ∧ c ∉ dialect.terminator

theorem Apart.isPrefixOf_append {first second : List Char} (apart : Apart first second)
    (text : List Char) : first.isPrefixOf (second ++ text) = false := by
  rw [Bool.eq_false_iff, ne_eq, List.isPrefixOf_iff_prefix]
  intro begins
  exact (List.prefix_or_prefix_of_prefix begins (List.prefix_append second text)).elim apart.1 apart.2

theorem Apart.ne_nil {first second : List Char} (apart : Apart first second) :
    first ≠ [] ∧ second ≠ [] := by
  constructor
  · rintro rfl
    exact apart.1 List.nil_prefix
  · rintro rfl
    exact apart.2 List.nil_prefix

theorem Apart.symm {first second : List Char} (apart : Apart first second) : Apart second first :=
  ⟨apart.2, apart.1⟩

theorem isPrefixOf_append_self (first text : List Char) :
    first.isPrefixOf (first ++ text) = true :=
  List.isPrefixOf_iff_prefix.mpr (List.prefix_append first text)

theorem isPrefixOf_cons_of_not_mem {first : List Char} {c : Char} (nonempty : first ≠ [])
    (other : c ∉ first) (text : List Char) : first.isPrefixOf (c :: text) = false := by
  cases first with
  | nil => exact absurd rfl nonempty
  | cons d rest =>
    have differ : d ≠ c := fun same => other (same ▸ List.mem_cons_self)
    simp [List.isPrefixOf, differ]

variable {dialect : Dialect}

theorem Clear.escape_ne_nil (clear : dialect.Clear) {escape : List Char}
    (escapes : dialect.escape = some escape) : escape ≠ [] := by
  cases quote : dialect.quote with
  | none => exact (clear.bare quote escape escapes).1.ne_nil.1
  | some q =>
    obtain ⟨c, rfl, -⟩ := clear.quoted (by rw [quote]; rfl) escape escapes
    exact List.cons_ne_nil c []

/-! ## The tokens of a writer -/

/-- Whether a dialect can tell the characters of a text from what stands around them. -/
def Holds (dialect : Dialect) (text : String) : Prop :=
  dialect.escape = none → ∀ c ∈ text.toList, dialect.isSpecial c = false

def Orderly (dialect : Dialect) : (inside : Bool) → List Token → Prop
  | inside, [] => inside = false
  | inside, .letter c :: rest =>
    (inside = true ∨ dialect.quote = none) ∧ (dialect.escape = none → dialect.isSpecial c = false) ∧
      Orderly dialect inside rest
  | inside, .quote :: rest =>
    dialect.quote.isSome ∧ (inside = true → rest.head? ≠ some .quote) ∧
      Orderly dialect (!inside) rest
  | inside, .separator :: rest | inside, .terminator :: rest =>
    inside = false ∧ Orderly dialect false rest

theorem spell_append (first second : List Token) :
    dialect.spell (first ++ second) = dialect.spell first ++ dialect.spell second :=
  List.flatMap_append

theorem escaped?_none (clear : dialect.Clear) {c : Char} (plain : dialect.isSpecial c = false)
    (rest : List Char) : dialect.escaped? (c :: rest) = none := by
  unfold escaped?
  cases escapes : dialect.escape with
  | none => rfl
  | some escape =>
    have other : c ∉ escape := by
      intro within
      simp [isSpecial, specials, escapes, within] at plain
    simp [isPrefixOf_cons_of_not_mem (clear.escape_ne_nil escapes) other rest]

theorem nextInField_letter (clear : dialect.Clear) {c : Char}
    (held : dialect.escape = none → dialect.isSpecial c = false) (rest : List Char) :
    dialect.nextInField (dialect.spellOne (.letter c) ++ rest) = some (.letter c, rest) := by
  cases special : dialect.isSpecial c with
  | true =>
    cases escapes : dialect.escape with
    | none => rw [held escapes] at special; cases special
    | some escape =>
      have found : dialect.escaped? (escape ++ c :: rest) = some (c, rest) := by
        simp [escaped?, escapes, isPrefixOf_append_self, special]
      simp [spellOne, special, escapes, nextInField, found]
  | false =>
    have letter : dialect.quote ≠ some c := by
      intro quote
      simp [isSpecial, specials, quote] at special
    simp [spellOne, special, nextInField, escaped?_none clear special, letter]

theorem separators_plain (clear : dialect.Clear) (quote : dialect.quote.isSome) {c : Char}
    (within : c ∈ dialect.separator ∨ c ∈ dialect.terminator) : dialect.isSpecial c = false := by
  obtain ⟨q, quote⟩ := Option.isSome_iff_exists.mp quote
  obtain ⟨notSeparator, notTerminator⟩ := clear.quote q quote
  have other : c ≠ q := by
    rintro rfl
    exact within.elim notSeparator notTerminator
  cases escapes : dialect.escape with
  | none => simp [isSpecial, specials, escapes, quote, other]
  | some escape =>
    obtain ⟨e, rfl, notSeparator, notTerminator⟩ := clear.quoted (by rw [quote]; rfl) escape escapes
    have unescaped : c ≠ e := by
      rintro rfl
      exact within.elim notSeparator notTerminator
    simp [isSpecial, specials, escapes, quote, other, unescaped]

theorem nextInField_quote (clear : dialect.Clear) {quote : Char}
    (quotes : dialect.quote = some quote) {rest : List Char}
    (after : ∀ c ∈ rest.head?, dialect.isSpecial c = false) :
    dialect.nextInField (quote :: rest) = some (.quote, rest) := by
  have closing : dialect.escaped? (quote :: rest) = none := by
    unfold escaped?
    cases escapes : dialect.escape with
    | none => rfl
    | some escape =>
      obtain ⟨e, rfl, -⟩ := clear.quoted (by rw [quotes]; rfl) escape escapes
      -- where both are the same character, what follows tells a closing quote from an escape
      by_cases same : e = quote
      · cases rest with
        | nil => simp
        | cons c rest => simp [after c rfl]
      · simp [List.isPrefixOf, same]
  simp [nextInField, closing, quotes]

theorem head_spell (clear : dialect.Clear) (quote : dialect.quote.isSome) {tokens : List Token}
    (orderly : dialect.Orderly false tokens) (outside : tokens.head? ≠ some .quote) :
    ∀ c ∈ (dialect.spell tokens).head?, dialect.isSpecial c = false := by
  have among : ∀ {text : List Char} (rest : List Char), text ≠ [] →
      ∀ c ∈ (text ++ rest).head?, c ∈ text := by
    intro text rest some c head
    cases text with
    | nil => exact absurd rfl some
    | cons d text =>
      obtain rfl := Option.some.inj head
      exact List.mem_cons_self
  obtain ⟨separator, terminator⟩ := clear.separators.ne_nil
  intro c head
  cases tokens with
  | nil => cases head
  | cons token rest =>
    cases token with
    | letter d =>
      rcases orderly.1 with inside | bare
      · cases inside
      · rw [bare] at quote
        cases quote
    | quote => exact absurd rfl outside
    | separator => exact separators_plain clear quote (.inl (among _ separator c head))
    | terminator => exact separators_plain clear quote (.inr (among _ terminator c head))

theorem isPrefixOf_letter (clear : dialect.Clear) (bare : dialect.quote = none) {c : Char}
    (held : dialect.escape = none → dialect.isSpecial c = false) {text : List Char}
    (between : text = dialect.separator ∨ text = dialect.terminator) (rest : List Char) :
    text.isPrefixOf (dialect.spellOne (.letter c) ++ rest) = false := by
  cases special : dialect.isSpecial c with
  | true =>
    cases escapes : dialect.escape with
    | none => rw [held escapes] at special; cases special
    | some escape =>
      have apart : Apart text escape := by
        obtain ⟨separator, terminator⟩ := clear.bare bare escape escapes
        rcases between with rfl | rfl
        · exact separator.symm
        · exact terminator.symm
      simpa [spellOne, special, escapes] using apart.isPrefixOf_append (c :: rest)
  | false =>
    have other : c ∉ text := by
      intro within
      rcases between with rfl | rfl <;> simp [isSpecial, specials, bare, within] at special
    have nonempty : text ≠ [] := by
      rcases between with rfl | rfl
      · exact clear.separators.ne_nil.1
      · exact clear.separators.ne_nil.2
    simpa [spellOne, special] using isPrefixOf_cons_of_not_mem nonempty other rest

theorem next_spell (clear : dialect.Clear) {inside : Bool} {token : Token} {rest : List Token}
    (orderly : dialect.Orderly inside (token :: rest)) :
    dialect.next inside (dialect.spellOne token ++ dialect.spell rest) =
      some (token, dialect.spell rest) := by
  cases token with
  | letter c =>
    obtain ⟨inField, held, -⟩ := orderly
    have letter := nextInField_letter clear held (dialect.spell rest)
    cases inside with
    | true => simpa [next] using letter
    | false =>
      have bare : dialect.quote = none := by simpa using inField
      have separator := isPrefixOf_letter clear bare held (.inl rfl) (dialect.spell rest)
      have terminator := isPrefixOf_letter clear bare held (.inr rfl) (dialect.spell rest)
      simpa [next, separator, terminator, bare] using letter
  | quote =>
    obtain ⟨quoted, closing, ordered⟩ := orderly
    obtain ⟨quote, quotes⟩ := Option.isSome_iff_exists.mp quoted
    have spelled : dialect.spellOne .quote = [quote] := by simp [spellOne, quotes]
    rw [spelled, List.singleton_append]
    cases inside with
    | true =>
      have after := head_spell clear quoted ordered (closing rfl)
      simpa [next] using nextInField_quote clear quotes after
    | false =>
      obtain ⟨notSeparator, notTerminator⟩ := clear.quote quote quotes
      obtain ⟨separator, terminator⟩ := clear.separators.ne_nil
      simp [next, isPrefixOf_cons_of_not_mem separator notSeparator,
        isPrefixOf_cons_of_not_mem terminator notTerminator, quotes]
  | separator =>
    obtain ⟨rfl, -⟩ := orderly
    simp [next, spellOne, isPrefixOf_append_self]
  | terminator =>
    obtain ⟨rfl, -⟩ := orderly
    simp [next, spellOne, isPrefixOf_append_self, clear.separators.isPrefixOf_append]

theorem spellOne_ne_nil (clear : dialect.Clear) {token : Token} (quotes : token = .quote →
    dialect.quote.isSome) : dialect.spellOne token ≠ [] := by
  obtain ⟨separator, terminator⟩ := clear.separators.ne_nil
  cases token with
  | letter c => cases special : dialect.isSpecial c <;> simp [spellOne, special]
  | quote =>
    obtain ⟨quote, found⟩ := Option.isSome_iff_exists.mp (quotes rfl)
    simp [spellOne, found]
  | separator => exact separator
  | terminator => exact terminator

theorem isPrefixOf_nil {first : List Char} (nonempty : first ≠ []) :
    first.isPrefixOf [] = false := by
  cases first with
  | nil => exact absurd rfl nonempty
  | cons c rest => rfl

theorem next_nil (clear : dialect.Clear) : dialect.next false [] = none := by
  obtain ⟨separator, terminator⟩ := clear.separators.ne_nil
  have nothing : dialect.escaped? [] = none := by
    unfold escaped?
    cases escapes : dialect.escape with
    | none => rfl
    | some escape => simp [isPrefixOf_nil (clear.escape_ne_nil escapes)]
  simp [next, isPrefixOf_nil separator, isPrefixOf_nil terminator, nextInField, nothing]

theorem scan_spell (clear : dialect.Clear) {inside : Bool} {tokens : List Token}
    (orderly : dialect.Orderly inside tokens) :
    dialect.scan inside (dialect.spell tokens) = tokens := by
  -- on the tokens; `inside` varies, as each quote turns it over
  induction tokens generalizing inside with
  | nil =>
    obtain rfl := orderly
    have spelled : dialect.spell [] = [] := rfl
    rw [spelled, scan, next_nil clear]
  | cons token rest ih =>
    have found := next_spell clear orderly
    have nonempty : dialect.spellOne token ≠ [] := by
      refine spellOne_ne_nil clear ?_
      rintro rfl
      exact orderly.1
    have shorter : (dialect.spell rest).length <
        (dialect.spellOne token ++ dialect.spell rest).length := by
      have := List.length_pos_iff.mpr nonempty
      rw [List.length_append]
      omega
    have goesOn : dialect.Orderly (if token = .quote then !inside else inside) rest := by
      cases token with
      | letter c => exact orderly.2.2
      | quote => exact orderly.2.2
      | separator | terminator =>
        obtain ⟨rfl, ordered⟩ := orderly
        exact ordered
    have spelled : dialect.spell (token :: rest) = dialect.spellOne token ++ dialect.spell rest :=
      List.flatMap_cons
    rw [spelled, scan, found]
    simp only [shorter, if_true, ih goesOn]

theorem orderly_letters {inside : Bool} (inField : inside = true ∨ dialect.quote = none)
    {text : List Char} (held : dialect.escape = none → ∀ c ∈ text, dialect.isSpecial c = false)
    {rest : List Token} (orderly : dialect.Orderly inside rest) :
    dialect.Orderly inside (text.map .letter ++ rest) := by
  induction text with
  | nil => exact orderly
  | cons c text ih =>
    exact ⟨inField, fun unescaped => held unescaped c List.mem_cons_self,
      ih fun unescaped c within => held unescaped c (List.mem_cons_of_mem _ within)⟩

theorem orderly_field {text : String} (held : dialect.Holds text) {rest : List Token}
    (orderly : dialect.Orderly false rest) (ends : rest.head? ≠ some .quote) :
    dialect.Orderly false (dialect.fieldTokens text ++ rest) := by
  cases quote : dialect.quote with
  | none =>
    simpa [fieldTokens, quote] using orderly_letters (.inr quote) held orderly
  | some q =>
    have quoted : dialect.quote.isSome := by rw [quote]; rfl
    have closed : dialect.Orderly true (.quote :: rest) := ⟨quoted, fun _ => ends, orderly⟩
    have opened : dialect.Orderly false (.quote :: (text.toList.map .letter ++ .quote :: rest)) :=
      ⟨quoted, fun inside => (nomatch inside), orderly_letters (.inl rfl) held closed⟩
    simpa [fieldTokens, quote] using opened

theorem orderly_record {fields : List String} (held : ∀ field ∈ fields, dialect.Holds field)
    {rest : List Token} (orderly : dialect.Orderly false rest) :
    dialect.Orderly false (dialect.recordTokens fields ++ rest) := by
  -- the induction carries the terminator along, so that each field has a token behind it
  have ended : dialect.Orderly false (.terminator :: rest) := ⟨rfl, orderly⟩
  rw [recordTokens, lineTokens, List.append_assoc, List.singleton_append]
  induction fields with
  | nil => exact ended
  | cons field fields ih =>
    have first := held field List.mem_cons_self
    cases fields with
    | nil => simpa using orderly_field first ended (by simp)
    | cons field' fields =>
      have more := ih fun field within => held field (List.mem_cons_of_mem _ within)
      have separated : dialect.Orderly false (.separator ::
          ([Token.separator].intercalate ((field' :: fields).map dialect.fieldTokens) ++
            .terminator :: rest)) := ⟨rfl, more⟩
      simpa using orderly_field first separated (by simp)

theorem orderly_records {records : List (List String)}
    (held : ∀ record ∈ records, ∀ field ∈ record, dialect.Holds field) :
    dialect.Orderly false (records.flatMap dialect.recordTokens) := by
  induction records with
  | nil => exact rfl
  | cons record records ih =>
    rw [List.flatMap_cons]
    exact orderly_record (held record List.mem_cons_self)
      (ih fun record within => held record (List.mem_cons_of_mem _ within))

/-! ## Reading back -/

theorem letters_fieldTokens (text : String) :
    (dialect.fieldTokens text).filterMap Token.letter? = text.toList := by
  have around :
      (if dialect.quote.isSome then [Token.quote] else []).filterMap Token.letter? = [] := by
    split <;> rfl
  have letters : (text.toList.map Token.letter).filterMap Token.letter? = text.toList := by
    rw [List.filterMap_map]
    exact List.filterMap_some
  simp only [fieldTokens, List.filterMap_append, around, letters, List.append_nil, List.nil_append]

theorem not_mem_fieldTokens (text : String) {token : Token} (between : token = .separator ∨
    token = .terminator) : token ∉ dialect.fieldTokens text := by
  have around : token ∉ (if dialect.quote.isSome then [Token.quote] else []) := by
    rcases between with rfl | rfl <;> cases dialect.quote <;> simp
  have letters : token ∉ text.toList.map Token.letter := by
    rcases between with rfl | rfl <;> simp
  simp only [fieldTokens, List.mem_append, around, letters, or_false, not_false_eq_true]

theorem recordOf_lineTokens {fields : List String} (nonempty : dialect.quote = none → fields ≠ []) :
    dialect.recordOf (dialect.lineTokens fields) = fields := by
  cases fields with
  | nil =>
    cases quote : dialect.quote with
    | none => exact absurd rfl (nonempty quote)
    | some q => simp [recordOf, lineTokens, quote]
  | cons field fields =>
    have told :
        (dialect.quote.isSome && (dialect.lineTokens (field :: fields)).isEmpty) = false := by
      cases quote : dialect.quote with
      | none => rfl
      | some q => cases fields <;> simp [lineTokens, fieldTokens, quote]
    have split : (dialect.lineTokens (field :: fields)).splitOn .separator =
        (field :: fields).map dialect.fieldTokens := by
      refine List.splitOn_intercalate _ (fun tokens within => ?_) (by simp)
      obtain ⟨text, -, rfl⟩ := List.mem_map.mp within
      exact not_mem_fieldTokens text (.inl rfl)
    rw [recordOf, told, if_neg Bool.false_ne_true, split, List.map_map]
    refine (List.map_congr_left fun text _ => ?_).trans (List.map_id _)
    exact (congrArg String.ofList (letters_fieldTokens text)).trans String.ofList_toList

theorem terminator_not_mem_lineTokens (fields : List String) :
    Token.terminator ∉ dialect.lineTokens fields := by
  unfold lineTokens
  induction fields with
  | nil => simp
  | cons field fields ih =>
    have first : Token.terminator ∉ dialect.fieldTokens field :=
      not_mem_fieldTokens field (.inr rfl)
    cases fields with
    | nil => simpa using first
    | cons field' fields => simpa [first] using ih

theorem splitOn_records (records : List (List String)) :
    (records.flatMap dialect.recordTokens).splitOn .terminator =
      records.map dialect.lineTokens ++ [[]] := by
  have joined : records.flatMap dialect.recordTokens =
      [Token.terminator].intercalate (records.map dialect.lineTokens ++ [[]]) := by
    induction records with
    | nil => rfl
    | cons record records ih =>
      rw [List.flatMap_cons, ih, List.map_cons, List.cons_append,
        List.intercalate_cons_of_ne_nil (by simp)]
      rfl
  refine joined ▸ List.splitOn_intercalate _ (fun tokens within => ?_) (by simp)
  rcases List.mem_append.mp within with line | last
  · obtain ⟨fields, -, rfl⟩ := List.mem_map.mp line
    exact terminator_not_mem_lineTokens fields
  · obtain rfl := List.mem_singleton.mp last
    exact List.not_mem_nil

theorem read_write (clear : dialect.Clear) {records : List (List String)}
    (held : ∀ record ∈ records, ∀ field ∈ record, dialect.Holds field)
    (nonempty : dialect.quote = none → ∀ record ∈ records, record ≠ []) :
    dialect.read (dialect.write records) = records := by
  rw [read, write, String.toList_ofList, scan_spell clear (orderly_records held), splitOn_records,
    List.dropLast_concat, List.map_map]
  refine (List.map_congr_left fun record within => ?_).trans (List.map_id records)
  exact recordOf_lineTokens fun bare => nonempty bare record within

end Dialect

end TreeTable.Csv

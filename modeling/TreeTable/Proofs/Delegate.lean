import TreeTable.Delegate
import TreeTable.Proofs.Outcome

namespace TreeTable

def Value.IsText (data : Value) : Prop := ∃ text, data = .text text

theorem Value.isText_text (text : String) : (Value.text text).IsText := ⟨text, rfl⟩

theorem Value.IsText.asText {data : Value} (isText : data.IsText) :
    Answers (fun _ => True) data.asText := by
  obtain ⟨text, rfl⟩ := isText
  exact .ok trivial

theorem Value.mapM_asText (texts : List String) :
    (texts.map Value.text).mapM Value.asText = .ok texts := by
  induction texts with
  | nil => rfl
  | cons text texts ih =>
    rw [List.map_cons, List.mapM_cons, ih]
    rfl

theorem Entries.exists_mem_of_value? {κ α : Type} [BEq κ] {entries : Entries κ α} {key : κ}
    {value : α} (found : entries.value? key = some value) : ∃ known, (known, value) ∈ entries := by
  induction entries with
  | nil => cases found
  | cons entry rest ih =>
    obtain ⟨known, first⟩ := entry
    rw [Entries.value?] at found
    split at found
    · obtain rfl := Option.some.inj found
      exact ⟨known, List.mem_cons_self⟩
    · obtain ⟨known', among⟩ := ih found
      exact ⟨known', List.mem_cons_of_mem _ among⟩

namespace MarkupStyle

variable {style : MarkupStyle} {limit : Int}

theorem lengthLimit_of_int (whole : style.maxLength = .int limit) :
    style.lengthLimit = .ok (if 0 < limit then some limit else none) := by
  rw [lengthLimit, whole, Value.isPositive, ok_bind]
  by_cases positive : 0 < limit
  · simp only [positive, decide_true, Bool.not_true, Bool.false_eq_true, if_false, if_true]
    rfl
  · simp only [positive, decide_false, Bool.not_false, if_true, if_false]
    rfl

theorem clipText_of_int (whole : style.maxLength = .int limit) (text : List Char) :
    style.clipText text = .ok (Markup.clip limit text) := by
  rw [clipText, lengthLimit_of_int whole, ok_bind, Markup.clip]
  by_cases positive : 0 < limit
  · have cuts : style.canCut limit = true := by rw [canCut, whole]
    by_cases fits : (text.length : Int) ≤ limit
    · simp only [positive, fits, if_true, or_true]
      rfl
    · simp only [positive, fits, cuts, Int.not_le.mpr positive, or_self, if_false, if_true]
      rfl
  · rw [if_neg positive, if_pos (.inl (Int.not_lt.mp positive))]
    rfl

theorem convertText_of_int (whole : style.maxLength = .int limit) (text : String) :
    style.convertText text =
      .ok (String.ofList (style.conversion.apply (Markup.clip limit text.toList))) := by
  rw [convertText, clipText_of_int whole]
  rfl

/-- The longest text is a whole number, and the markup of every affix is a text. -/
structure Suited (style : MarkupStyle) : Prop where
  length : ∃ limit, style.maxLength = .int limit
  htmls : ∀ affixes ∈ [style.front, style.back], ∀ entry ∈ affixes.columns ++ affixes.rows,
    entry.2.html.IsText

theorem Suited.convert (suited : style.Suited) (text : String) :
    Answers Value.IsText (style.convert (.text text)) := by
  obtain ⟨limit, whole⟩ := suited.length
  have converted : style.convert (.text text) = Value.text <$> style.convertText text := rfl
  rw [converted, convertText_of_int whole]
  exact .ok ⟨_, rfl⟩

theorem Suited.html (suited : style.Suited) {affixes : Affixes}
    (side : affixes ∈ [style.front, style.back]) {html : Value}
    (found : (affixes.columns.value? headerPosition).map Affix.html = some html) :
    html.IsText := by
  obtain ⟨affix, stands, rfl⟩ := Option.map_eq_some_iff.mp found
  obtain ⟨position, among⟩ := Entries.exists_mem_of_value? stands
  exact suited.htmls affixes side _ (List.mem_append_left _ among)

end MarkupStyle

variable {ν : Type}

/-- A source that has headers and roles of headers at every number; a header is a text, or null
where it is absent. -/
structure Source.AnswersHeaders (source : Source ν) : Prop where
  shown : ∀ axis (index : Nat), Answers (fun header => header = .null ∨ header.IsText)
    (source.header axis (.int index) none)
  role : ∀ axis (index : Nat) (role : String), Answers (fun _ => True)
    (source.header axis (.int index) (some (.text role)))

namespace Inquiry

/-- The inquiry comes to a text whatever it is told. -/
def Answers : Inquiry → Prop
  | .done outcome => Comes outcome
  | .count _ next => ∀ counted, (next counted).Answers
  | .cell _ _ next => ∀ shown, (next shown).Answers
  | .header _ _ next => ∀ shown, (next shown).Answers

theorem Answers.run {inquiry : Inquiry} (answers : inquiry.Answers) (source : Source ν)
    (parent : Option ν) : Comes (inquiry.run source parent) := by
  induction inquiry with
  | done outcome => exact answers
  | count measure next ih => cases measure <;> exact ih _ (answers _)
  | cell row column next ih => exact ih _ (answers _)
  | header axis index next ih => exact ih _ (answers _)

end Inquiry

namespace Delegate

def Suited : Delegate → Prop
  | .plain => True
  | .markup style => style.Suited
  | .own texts => ∀ axis index, (texts.headerText axis index).Answers

theorem withFront_answers {front text : Value} (isText : front.IsText) (isText' : text.IsText) :
    Answers Value.IsText (withFront front text) := by
  obtain ⟨front, rfl⟩ := isText
  obtain ⟨text, rfl⟩ := isText'
  exact .ok ⟨front ++ text, rfl⟩

theorem headerShown_answers {source : Source ν} (headers : source.AnswersHeaders) (axis : Axis)
    (index : Nat) : Answers Value.IsText (source.headerShown axis (.int index)) := by
  refine (headers.shown axis index).bind fun header isKind => ?_
  rcases isKind with rfl | ⟨text, rfl⟩
  · exact .ok (Value.isText_text "")
  · exact .ok (Value.isText_text text)

def behind (front : Option Value) (text : Value) : Except Failure Value :=
  match front with
  | some front => withFront front text
  | none => .ok text

def before (back : Option Value) (text : Value) : Except Failure Value :=
  match back with
  | some back => withFront text back
  | none => .ok text

theorem behind_answers {front : Option Value} (areTexts : ∀ html ∈ front, html.IsText)
    {text : Value} (isText : text.IsText) : Answers Value.IsText (behind front text) := by
  cases front with
  | none => exact .ok isText
  | some front => exact withFront_answers (areTexts front rfl) isText

theorem before_answers {back : Option Value} (areTexts : ∀ html ∈ back, html.IsText)
    {text : Value} (isText : text.IsText) : Answers Value.IsText (before back text) := by
  cases back with
  | none => exact .ok isText
  | some back => exact withFront_answers isText (areTexts back rfl)

theorem headerText_column (style : MarkupStyle) (source : Source ν) (index : Value) :
    (markup style).headerText source .column index =
      source.headerShown .column index >>= fun shown => style.convert shown >>= fun text =>
        behind ((style.front.columns.value? headerPosition).map Affix.html) text >>=
          before ((style.back.columns.value? headerPosition).map Affix.html) := by
  unfold headerText
  dsimp only
  refine congrArg (source.headerShown .column index >>= ·) (funext fun shown => ?_)
  refine congrArg (style.convert shown >>= ·) (funext fun text => ?_)
  cases (style.front.columns.value? headerPosition).map Affix.html with
  | none => cases (style.back.columns.value? headerPosition).map Affix.html <;> rfl
  | some front => cases (style.back.columns.value? headerPosition).map Affix.html <;> rfl

theorem own_headerText_answers {texts : OwnTexts} {axis : Axis} {index : Value}
    (answers : (texts.headerText axis index).Answers) (source : Source ν) :
    Answers Value.IsText ((own texts).headerText source axis index) := by
  obtain ⟨text, told⟩ := answers.run source none
  refine ⟨.text text, ?_, Value.isText_text text⟩
  rw [headerText, told]
  rfl

theorem headerText_answers {source : Source ν} (headers : source.AnswersHeaders)
    {delegate : Delegate} (suited : delegate.Suited) (index : Nat) :
    Answers Value.IsText (delegate.headerText source .column (.int index)) := by
  have shown := headerShown_answers headers .column index
  cases delegate with
  | plain => exact shown
  | own texts => exact own_headerText_answers (suited .column (.int index)) source
  | markup style =>
    rw [headerText_column]
    refine shown.bind fun shown isText => ?_
    obtain ⟨text, rfl⟩ := isText
    refine (MarkupStyle.Suited.convert suited text).bind fun text isText => ?_
    have htmls : ∀ affixes ∈ [style.front, style.back],
        ∀ html ∈ (affixes.columns.value? headerPosition).map Affix.html, html.IsText :=
      fun affixes side html found => MarkupStyle.Suited.html suited side found
    refine (behind_answers (htmls _ List.mem_cons_self) isText).bind fun text isText => ?_
    exact before_answers (htmls _ (List.mem_cons_of_mem _ List.mem_cons_self)) isText

def escaping (maxLength : Int) : Delegate :=
  .markup { conversion := .escape, maxLength := .int maxLength }

def escapedText (maxLength : Int) (text : String) : String :=
  String.ofList (Markup.escape (Markup.clip maxLength text.toList))

theorem escaping_text (maxLength : Int) (source : Source ν) (parent : Option ν)
    (row column : Value) :
    (escaping maxLength).text source parent row column =
      source.shown row column parent >>= fun shown =>
        if row.canBeKey && column.canBeKey then .ok (escapedText maxLength shown)
        else .error .wrongType := by
  refine congrArg (source.shown row column parent >>= ·) (funext fun shown => ?_)
  let style : MarkupStyle := { conversion := .escape, maxLength := .int maxLength }
  have whole : style.maxLength = .int maxLength := rfl
  have converted : style.convertText shown = .ok (escapedText maxLength shown) :=
    MarkupStyle.convertText_of_int whole shown
  dsimp only [escaping]
  rw [converted, ok_bind]
  cases row.canBeKey && column.canBeKey with
  | false => rfl
  | true =>
    have joined : "" ++ escapedText maxLength shown ++ "" = escapedText maxLength shown := by
      rw [String.empty_append, String.append_empty]
    exact congrArg Except.ok joined

theorem escaping_headerText (maxLength : Int) (source : Source ν) (axis : Axis) (index : Value) :
    (escaping maxLength).headerText source axis index =
      source.headerShown axis index >>=
        MarkupStyle.convert { conversion := .escape, maxLength := .int maxLength } := by
  refine congrArg (source.headerShown axis index >>= ·) (funext fun shown => ?_)
  cases axis with
  | row => exact bind_pure _
  | column => exact bind_pure _

end Delegate

end TreeTable

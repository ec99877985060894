import TreeTable.Source.Document
import TreeTable.Markup.Clip
import TreeTable.Markup.Link

/-!
Delegates turn a cell or a header into its final text: as the source has it, or as markup that is
clipped, escaped, linked and put between affixes.
-/

namespace TreeTable

inductive Conversion where
  | asIs
  | escape
  | escapeWithLinks
deriving DecidableEq, Repr

namespace Conversion

def ofValue (given : Value) : Except Failure Conversion :=
  match given with
  | .text "as-is" => .ok .asIs
  | .text "escape" => .ok .escape
  | .text "escape-with-links" => .ok .escapeWithLinks
  | given => .error (.unknownConversion given)

def apply : Conversion → List Char → List Char
  | .asIs => id
  | .escape => Markup.escape
  | .escapeWithLinks => Markup.linkify

end Conversion

/-- Markup in front of a text or after it. Its placeholders `{}` take the text of another column of
the same row, looked up in `transcode` unless that is empty. -/
structure Affix where
  html : Value
  argument : Option Value := none
  transcode : Roles := []

namespace Affix

def fill (argument : List Char) : List Char → List Char
  | '{' :: '}' :: rest => argument ++ fill argument rest
  | c :: rest => c :: fill argument rest
  | [] => []

def transcoded (affix : Affix) (argument : String) : Value :=
  if affix.transcode.isEmpty then .text argument
  else (Entries.value? affix.transcode (.text argument)).getD (.text "")

def render {ν : Type} (affix : Affix) (source : Source ν) (parent : Option ν) (row : Value) :
    Except Failure Value :=
  match affix.argument with
  | none => .ok affix.html
  | some column => do
    let argument := affix.transcoded (← source.shown row column parent)
    match affix.html with
    | .text html => return .text (String.ofList (fill (← argument.asText).toList html.toList))
    | .broken points =>
      return .text (String.ofList (fill (← argument.asText).toList (points.map Point.shown)))
    | _ => throw .noSuchField

end Affix

inductive Side where
  | front
  | back
deriving DecidableEq, Repr

structure Affixes where
  columns : Entries Value Affix := []
  rows : Entries Value Affix := []

def everyPosition : Value := .int (-1)

def headerPosition : Value := .int (-2)

structure MarkupStyle where
  conversion : Conversion := .escapeWithLinks
  maxLength : Value := .int 200
  front : Affixes := {}
  back : Affixes := {}

namespace MarkupStyle

def lengthLimit (style : MarkupStyle) : Except Failure (Option Int) := do
  if !(← style.maxLength.isPositive) then return none
  match style.maxLength with
  | .float x =>
    match Binary.ofFloat x with
    | .nan => return some (-1)
    | limit => return limit.floor?
  | limit => return some (← limit.asIndex)

def canCut (style : MarkupStyle) (limit : Int) : Bool :=
  match style.maxLength with
  | .float _ => limit == 0 || limit == 1
  | _ => true

def clipText (style : MarkupStyle) (text : List Char) : Except Failure (List Char) := do
  match ← style.lengthLimit with
  | none => return text
  | some limit =>
    if text.length ≤ limit then return text
    else if style.canCut limit then return Markup.cut limit.toNat text
    else throw .wrongType

def convertText (style : MarkupStyle) (text : String) : Except Failure String := do
  return String.ofList (style.conversion.apply (← style.clipText text.toList))

def convertOther (style : MarkupStyle) (given : Value) : Except Failure Value := do
  if let some limit := ← style.lengthLimit then
    if limit < (← given.elements).length then throw .wrongType
  match style.conversion with
  | .asIs => return given
  | .escape => throw .noSuchField
  | .escapeWithLinks => throw .wrongType

def convert (style : MarkupStyle) (given : Value) : Except Failure Value :=
  match given with
  | .text s => .text <$> style.convertText s
  | .broken points => .text <$> style.convertText (Text.broken points).shown
  | given => style.convertOther given

def setAffix (style : MarkupStyle) (side : Side) (axis : Axis) (position : Value) (affix : Affix) :
    Except Failure MarkupStyle :=
  let put (affixes : Affixes) : Affixes :=
    match axis with
    | .column => { affixes with columns := affixes.columns.put position affix }
    | .row => { affixes with rows := affixes.rows.put position affix }
  if position.canBeKey then
    match side with
    | .front => .ok { style with front := put style.front }
    | .back => .ok { style with back := put style.back }
  else .error .wrongType

def clearAffixes (style : MarkupStyle) : MarkupStyle := { style with front := {}, back := {} }

def around (style : MarkupStyle) (row column : Value) : List (Option Affix) × List (Option Affix) :=
  let front := style.front
  let back := style.back
  ([front.columns.value? column, front.columns.value? everyPosition,
    front.rows.value? row, front.rows.value? everyPosition],
   [back.rows.value? everyPosition, back.rows.value? row,
    back.columns.value? everyPosition, back.columns.value? column])

def renderAll {ν : Type} (source : Source ν) (parent : Option ν) (row : Value)
    (affixes : List (Option Affix)) : Except Failure String := do
  let parts ← (affixes.filterMap id).mapM fun affix => affix.render source parent row
  return String.join (← parts.mapM Value.asText)

end MarkupStyle

/-- How a delegate of one's own comes to a text: it looks at cells of the level at hand, at how many
there are and at headers, and goes on from what it sees, be it a failure. Nothing else of a source is
in its reach. -/
inductive Inquiry where
  | done (outcome : Except Failure String)
  | count (measure : Measure) (next : Except Failure Int → Inquiry)
  | cell (row column : Value) (next : Except Failure String → Inquiry)
  | header (axis : Axis) (index : Value) (next : Except Failure Value → Inquiry)

def Inquiry.run {ν : Type} (source : Source ν) (parent : Option ν) : Inquiry → Except Failure String
  | .done outcome => outcome
  | .count .rows next => (next (source.rowCount parent)).run source parent
  | .count .columns next => (next (source.columnCount parent)).run source parent
  | .cell row column next => (next (source.shown row column parent)).run source parent
  | .header axis index next => (next (source.headerShown axis index)).run source parent

structure OwnTexts where
  text : (row column : Value) → Inquiry
  headerText : (axis : Axis) → (index : Value) → Inquiry

inductive Delegate where
  | plain
  | markup (style : MarkupStyle)
  | own (texts : OwnTexts)

namespace Delegate

variable {ν : Type}

def text (delegate : Delegate) (source : Source ν) (parent : Option ν) (row column : Value) :
    Except Failure String :=
  match delegate with
  | .plain => source.shown row column parent
  | .markup style => do
    let text ← style.convertText (← source.shown row column parent)
    if !(row.canBeKey && column.canBeKey) then throw .wrongType
    let (front, back) := style.around row column
    let front ← MarkupStyle.renderAll source parent row front
    let back ← MarkupStyle.renderAll source parent row back
    return front ++ text ++ back
  | .own texts => (texts.text row column).run source parent

def withFront (front text : Value) : Except Failure Value := do
  return .text ((← front.asText) ++ (← text.asText))

/-- The affixes of row headers are filled from the top-level row of that number; those of column
headers are never filled. -/
def headerText (delegate : Delegate) (source : Source ν) (axis : Axis) (index : Value) :
    Except Failure Value :=
  match delegate with
  | .plain => source.headerShown axis index
  | .markup style => do
    let shown ← source.headerShown axis index
    let affix (affixes : Affixes) : Except Failure (Option Value) :=
      match axis with
      | .row => (affixes.rows.value? headerPosition).mapM fun affix =>
        affix.render source none index
      | .column => .ok ((affixes.columns.value? headerPosition).map Affix.html)
    let text ← style.convert shown
    let text ← match ← affix style.front with
      | some front => withFront front text
      | none => pure text
    match ← affix style.back with
    | some back => withFront text back
    | none => return text
  | .own texts => .text <$> (texts.headerText axis index).run source none

def adjust (delegate : Delegate) (change : MarkupStyle → MarkupStyle) : Delegate :=
  match delegate with
  | .markup style => .markup (change style)
  | .plain | .own _ => delegate

def restyle (delegate : Delegate) (change : MarkupStyle → Except Failure MarkupStyle) :
    Except Failure Delegate :=
  match delegate with
  | .markup style => .markup <$> change style
  | .plain | .own _ => .error .noSuchField

def convert (delegate : Delegate) (given : Value) : Except Failure Value :=
  match delegate with
  | .markup style => style.convert given
  | .plain | .own _ => .error .noSuchField

end Delegate

end TreeTable

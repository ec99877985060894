import TreeTable.Config

namespace TreeTable.Csv

structure FieldFormat where
  quote : Option Value
  escape : Option Value
  replacement : Option Value
  special : List Value

inductive Part where
  | kept (character : Value)
  | guard

namespace FieldFormat

def ofConfig (config : Config) (separator : Value) : Except Failure FieldFormat := do
  let escapes ← match config.escapeChar with
    | some escape => escape.members
    | none => pure []
  let others ← match config.fieldQuote with
    | some quote => quote.members
    | none => pure ((← separator.members) ++ (← config.recordSeparator.members))
  return {
    quote := config.fieldQuote
    escape := config.escapeChar
    replacement := config.replacementChar
    special := escapes ++ others }

def isSpecial (format : FieldFormat) (character : Value) : Bool :=
  format.special.contains character

def notAbove (x y : (Int × Int) × Value) : Bool :=
  x.1.1 < y.1.1 || x.1.1 == y.1.1 && x.1.2 ≤ y.1.2

def sortedSpecials (format : FieldFormat) : Except Failure (List Value) :=
  match format.special.eraseDups with
  | several@(_ :: _ :: _) =>
    match several.mapM fun c => c.rank?.map (·, c) with
    | some ranked => .ok ((ranked.mergeSort notAbove).map Prod.snd)
    | none => do return ((← several.mapM Value.asText).mergeSort (· ≤ ·)).map .text
  | few => .ok few

def active (format : FieldFormat) : Bool :=
  format.quote.isSome || format.escape.isSome || format.replacement.isSome

def collapse (format : FieldFormat) (inRun : Bool) : List Value → List Part
  | [] => []
  | c :: rest =>
    if format.isSpecial c then (if inRun then [] else [.guard]) ++ collapse format true rest
    else .kept c :: collapse format false rest

def escaped (format : FieldFormat) (raw : List Value) : List Part :=
  raw.flatMap fun c => if format.isSpecial c then [.guard, .kept c] else [.kept c]

def protect (format : FieldFormat) (raw : List Value) : List Part :=
  if format.escape.isSome then format.escaped raw
  else if format.replacement.isSome then format.collapse false raw
  else (raw.filter fun c => !format.isSpecial c).map .kept

def guardText (format : FieldFormat) : Except Failure String :=
  ((format.escape.orElse fun _ => format.replacement).getD (.text "")).asText

def partText (format : FieldFormat) : Part → Except Failure String
  | .kept c => c.asText
  | .guard => format.guardText

def write (format : FieldFormat) (raw : Value) : Except Failure Value :=
  if format.active then do
    let parts ← (format.protect (← raw.members)).mapM format.partText
    let quote ← (format.quote.getD (.text "")).asText
    return .text (quote ++ String.join parts ++ quote)
  else .ok raw

end FieldFormat

end TreeTable.Csv

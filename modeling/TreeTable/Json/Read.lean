import TreeTable.Json.Error
import TreeTable.Json.Number

/-!
Reading JSON texts. Besides what the format allows, the numbers `NaN`, `Infinity` and `-Infinity`
are read. Of fields with one name the first keeps its place and the last its value.
-/

namespace TreeTable.Json

structure Cursor where
  position : Nat
  rest : List Char

namespace Cursor

def start (text : List Char) : Cursor := ⟨0, text⟩

def skip (cursor : Cursor) (count : Nat) : Cursor :=
  ⟨cursor.position + count, cursor.rest.drop count⟩

def isSpace (c : Char) : Bool := c == ' ' || c == '\t' || c == '\n' || c == '\r'

def skipSpaces (cursor : Cursor) : Cursor :=
  cursor.skip (cursor.rest.takeWhile isSpace).length

def fail {α : Type} (cursor : Cursor) (complaint : Complaint) : Except Error α :=
  .error ⟨complaint, cursor.position⟩

def after? (cursor : Cursor) (word : String) : Option Cursor :=
  if word.toList.isPrefixOf cursor.rest then some (cursor.skip word.length) else none

end Cursor

def hexDigit? (c : Char) : Option Nat :=
  if '0' ≤ c && c ≤ '9' then some (c.toNat - '0'.toNat)
  else if 'a' ≤ c && c ≤ 'f' then some (c.toNat - 'a'.toNat + 10)
  else if 'A' ≤ c && c ≤ 'F' then some (c.toNat - 'A'.toNat + 10)
  else none

def codeUnit? (text : List Char) : Option Nat :=
  let digits := text.take 4
  if digits.length = 4 then
    digits.foldlM (fun value c => (hexDigit? c).map (16 * value + ·)) 0
  else none

def simpleEscape? : Char → Option Char
  | '"' => some '"'
  | '\\' => some '\\'
  | '/' => some '/'
  | 'b' => some '\x08'
  | 'f' => some '\x0c'
  | 'n' => some '\n'
  | 'r' => some '\r'
  | 't' => some '\t'
  | _ => none

/-- The code point of a code escape, read from behind its `u`. A pair of escapes may stand for one
character; at least one more character has to follow. -/
def codeEscape (cursor : Cursor) : Except Error (Point × Cursor) :=
  let mark : Error := ⟨.badCodeEscape, cursor.position - 1⟩
  if (cursor.rest.drop 4).isEmpty then .error mark
  else
    match codeUnit? cursor.rest with
    | none => .error mark
    | some unit =>
      let next := cursor.skip 4
      if isHighSurrogate unit && !(next.rest.drop 6).isEmpty then
        match next.after? "\\u" with
        | none => .ok (.ofNat unit, next)
        | some second =>
          match codeUnit? second.rest with
          | none => .error ⟨.badCodeEscape, second.position - 1⟩
          | some low =>
            if isLowSurrogate low then .ok (.ofNat (pairedUnits unit low), second.skip 4)
            else .ok (.ofNat unit, next)
      else .ok (.ofNat unit, next)

def stringRest (opening : Nat) : (fuel : Nat) → Cursor → (before : List Point) →
    Except Error (Text × Cursor)
  | 0, _, _ => .error ⟨.openString, opening⟩
  | fuel + 1, cursor, before =>
    match cursor.rest with
    | [] => .error ⟨.openString, opening⟩
    | '"' :: _ => .ok (.ofPoints before.reverse, cursor.skip 1)
    | ['\\'] => .error ⟨.openString, opening⟩
    | '\\' :: 'u' :: _ =>
      match codeEscape (cursor.skip 2) with
      | .error error => .error error
      | .ok (point, next) => stringRest opening fuel next (point :: before)
    | '\\' :: c :: _ =>
      match simpleEscape? c with
      | none => cursor.fail .badEscape
      | some c => stringRest opening fuel (cursor.skip 2) (.char c :: before)
    | c :: _ =>
      if c.toNat ≤ 0x1f then cursor.fail .controlCharacter
      else stringRest opening fuel (cursor.skip 1) (.char c :: before)

def stringAt (fuel : Nat) (cursor : Cursor) : Except Error (Text × Cursor) :=
  stringRest cursor.position (fuel + 1) (cursor.skip 1) []

def words : List (String × Value) := [
  ("null", .null), ("true", .bool true), ("false", .bool false),
  ("NaN", .float (0.0 / 0.0)), ("Infinity", .float (1.0 / 0.0)), ("-Infinity", .float (-1.0 / 0.0))]

def wordAt? (cursor : Cursor) : Option (Value × Cursor) :=
  words.findSome? fun (word, value) => (cursor.after? word).map (value, ·)

def wordOrNumber (cursor : Cursor) : Except Error (Value × Cursor) :=
  match wordAt? cursor with
  | some read => .ok read
  | none =>
    match numberAt? cursor.rest with
    | some number =>
      match number.excess? with
      | some count => cursor.fail (.tooManyDigits count)
      | none => .ok (number.toValue, cursor.skip number.length)
    | none => cursor.fail .noValue

mutual

def valueAt : (fuel levels : Nat) → Cursor → Except Error (Value × Cursor)
  | 0, _, cursor => cursor.fail .noValue
  | fuel + 1, levels, cursor =>
    match cursor.rest, levels with
    | '"' :: _, _ => do
      let (text, next) ← stringAt fuel cursor
      return (text.value, next)
    | '[' :: _, 0 | '{' :: _, 0 => cursor.fail .tooDeep
    | '[' :: _, levels + 1 =>
      let inside := (cursor.skip 1).skipSpaces
      match inside.rest with
      | ']' :: _ => .ok (.list [], inside.skip 1)
      | _ => itemsAt fuel levels inside []
    | '{' :: _, levels + 1 =>
      let inside := (cursor.skip 1).skipSpaces
      match inside.rest with
      | '}' :: _ => .ok (.object [], inside.skip 1)
      | _ => fieldsAt fuel levels inside []
    | _, _ => wordOrNumber cursor

def itemsAt : (fuel levels : Nat) → Cursor → (before : List Value) →
    Except Error (Value × Cursor)
  | 0, _, cursor, _ => cursor.fail .noValue
  | fuel + 1, levels, cursor, before =>
    match valueAt fuel levels cursor with
    | .error error => .error error
    | .ok (item, next) =>
      let next := next.skipSpaces
      match next.rest with
      | ']' :: _ => .ok (.list (item :: before).reverse, next.skip 1)
      | ',' :: _ => itemsAt fuel levels (next.skip 1).skipSpaces (item :: before)
      | _ => next.fail .noComma

def fieldsAt : (fuel levels : Nat) → Cursor → (before : List (Text × Value)) →
    Except Error (Value × Cursor)
  | 0, _, cursor, _ => cursor.fail .noName
  | fuel + 1, levels, cursor, before =>
    match cursor.rest with
    | '"' :: _ =>
      match stringAt fuel cursor with
      | .error error => .error error
      | .ok (name, next) =>
        let colon := next.skipSpaces
        match colon.rest with
        | ':' :: _ =>
          match valueAt fuel levels (colon.skip 1).skipSpaces with
          | .error error => .error error
          | .ok (value, next) =>
            let before := (name, value) :: before
            let next := next.skipSpaces
            match next.rest with
            | '}' :: _ => .ok (.object (Entries.ofPairs before.reverse), next.skip 1)
            | ',' :: _ => fieldsAt fuel levels (next.skip 1).skipSpaces before
            | _ => next.fail .noComma
        | _ => colon.fail .noColon
    | _ => cursor.fail .noName

end

/-- The value that a text holds, with nothing but spaces around it. Reading stops where more lists
and objects stand inside each other than there are levels. The fuel is never used up: no value is
nested deeper than twice the number of characters, and no string is longer. -/
def read (levels : Nat) (text : List Char) : Except Error Value := do
  match text with
  | '\ufeff' :: _ => throw ⟨.byteOrderMark, 0⟩
  | _ =>
    let (value, next) ← valueAt (2 * text.length + 2) levels (Cursor.start text).skipSpaces
    let last := next.skipSpaces
    if last.rest.isEmpty then return value else last.fail .extraData

end TreeTable.Json

import TreeTable.Value
import TreeTable.Text.Integer

namespace TreeTable.Json

def isDigit (c : Char) : Bool := '0' ≤ c && c ≤ '9'

def naturalOf (digits : List Char) : Nat :=
  digits.foldl (fun n c => 10 * n + (c.toNat - '0'.toNat)) 0

structure NumberText where
  negative : Bool
  whole : List Char
  fraction : Option (List Char)
  exponent : Option (Bool × List Char)
  length : Nat

namespace NumberText

def excess? (number : NumberText) : Option Nat :=
  if number.fraction.isNone && number.exponent.isNone
      && Integer.mostDigits < number.whole.length then some number.whole.length
  else none

def farthestExponent : Int := 400

def nearest (digits : List Char) (exponent : Int) : Float :=
  let mantissa := naturalOf digits
  let leading := digits.length + exponent
  if mantissa = 0 ∨ leading < -farthestExponent then 0.0
  else if farthestExponent + digits.length < leading then 1.0 / 0.0
  else Float.ofScientific mantissa (exponent < 0) exponent.natAbs

def toValue (number : NumberText) : Value :=
  match number.fraction, number.exponent with
  | none, none =>
    let n : Int := naturalOf number.whole
    .int (if number.negative then -n else n)
  | fraction, exponent =>
    let places := fraction.getD []
    let power : Int := match exponent with
      | none => 0
      | some (negative, digits) =>
        let n : Int := naturalOf digits
        if negative then -n else n
    let magnitude := nearest (number.whole ++ places) (power - places.length)
    .float (if number.negative then -magnitude else magnitude)

end NumberText

def spanDigits (text : List Char) : List Char × List Char := text.span isDigit

def fractionAt (text : List Char) : Option (List Char) × List Char :=
  match text with
  | '.' :: rest =>
    match spanDigits rest with
    | ([], _) => (none, text)
    | (digits, rest) => (some digits, rest)
  | _ => (none, text)

def signAt (text : List Char) : Bool × Nat × List Char :=
  match text with
  | '-' :: rest => (true, 1, rest)
  | '+' :: rest => (false, 1, rest)
  | _ => (false, 0, text)

def exponentAt (text : List Char) : Option (Bool × List Char) × Nat :=
  match text with
  | c :: rest =>
    if c = 'e' || c = 'E' then
      let (negative, width, rest) := signAt rest
      match spanDigits rest with
      | ([], _) => (none, 0)
      | (digits, _) => (some (negative, digits), 1 + width + digits.length)
    else (none, 0)
  | [] => (none, 0)

def wholeAt? (text : List Char) : Option (List Char × List Char) :=
  match text with
  | '0' :: rest => some (['0'], rest)
  | c :: _ => if isDigit c then some (spanDigits text) else none
  | [] => none

def numberAt? (text : List Char) : Option NumberText := do
  let (negative, width, unsigned) :=
    match text with
    | '-' :: rest => (true, 1, rest)
    | _ => (false, 0, text)
  let (whole, rest) ← wholeAt? unsigned
  let (fraction, rest) := fractionAt rest
  let places := (fraction.map fun digits => 1 + digits.length).getD 0
  let (exponent, power) := exponentAt rest
  return { negative, whole, fraction, exponent, length := width + whole.length + places + power }

end TreeTable.Json

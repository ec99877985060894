import TreeTable.Text.Blank
import TreeTable.Text.Digit

namespace TreeTable.Integer

def isAscii (c : Char) : Bool := c.toNat < 128

def isPlainBlank (c : Char) : Bool :=
  c == ' ' || c == '\t' || c == '\n' || c == '\x0b' || c == '\x0c' || c == '\r'

def toAscii (c : Char) : Char :=
  if isAscii c then c
  else if isBlank c then ' '
  else
    match digit? c with
    | some n => Char.ofNat ('0'.toNat + n)
    | none => '?'

def trim (text : List Char) : List Char :=
  ((text.dropWhile isPlainBlank).reverse.dropWhile isPlainBlank).reverse

def digits? (value : Nat) (afterDigit : Bool) : List Char → Option Nat
  | [] => if afterDigit then some value else none
  | c :: rest =>
    if '0' ≤ c && c ≤ '9' then digits? (10 * value + (c.toNat - '0'.toNat)) true rest
    else if c = '_' && afterDigit then digits? value false rest
    else none

def mostDigits : Nat := 4300

def unsigned? (text : List Char) : Option Nat :=
  if mostDigits < text.countP fun c => '0' ≤ c && c ≤ '9' then none else digits? 0 false text

def read? (text : List Char) : Option Int :=
  match trim (text.map toAscii) with
  | '-' :: rest => (unsigned? rest).map fun n => -n
  | '+' :: rest => (unsigned? rest).map fun n => n
  | rest => (unsigned? rest).map fun n => n

end TreeTable.Integer

import TreeTable.Text.Point
import TreeTable.Text.Printable

namespace TreeTable.Quoted

def quoteFor (text : List Char) : Char :=
  if text.contains '\'' && !text.contains '"' then '"' else '\''

def hex (width n : Nat) : List Char :=
  let digits := Nat.toDigits 16 n
  List.replicate (width - digits.length) '0' ++ digits

def escapeChar (quote c : Char) : List Char :=
  if c = quote || c = '\\' then ['\\', c]
  else if c = '\n' then ['\\', 'n']
  else if c = '\r' then ['\\', 'r']
  else if c = '\t' then ['\\', 't']
  else if isPrintable c then [c]
  else if c.toNat ≤ 0xff then '\\' :: 'x' :: hex 2 c.toNat
  else if c.toNat ≤ 0xffff then '\\' :: 'u' :: hex 4 c.toNat
  else '\\' :: 'U' :: hex 8 c.toNat

def encode (text : List Char) : List Char :=
  let quote := quoteFor text
  quote :: text.flatMap (escapeChar quote) ++ [quote]

def escapePoint (quote : Char) : Point → List Char
  | .char c => escapeChar quote c
  | .half unit _ => '\\' :: 'u' :: hex 4 unit

def encodePoints (points : List Point) : List Char :=
  let quote := quoteFor (points.filterMap Point.char?)
  quote :: points.flatMap (escapePoint quote) ++ [quote]

end TreeTable.Quoted

namespace TreeTable

def quoted (text : String) : String := String.ofList (Quoted.encode text.toList)

def Text.quoted : Text → String
  | .whole text => TreeTable.quoted text
  | .broken points => String.ofList (Quoted.encodePoints points)

end TreeTable

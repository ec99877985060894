import TreeTable.Decimal.Shortest

namespace TreeTable.Decimal

structure Layout where
  leastPositional : Int
  mostPositional : Int
  exponentDigits : Nat

def cellLayout : Layout := ⟨-4, 15, 2⟩

def zeros (n : Nat) : List Char := List.replicate n '0'

def positional (digits : List Char) (point : Int) : List Char :=
  if point ≤ 0 then '0' :: '.' :: zeros (-point).toNat ++ digits
  else
    let whole := digits.take point.toNat
    let rest := digits.drop point.toNat
    whole ++ zeros (point.toNat - whole.length) ++ '.' :: (if rest.isEmpty then ['0'] else rest)

def exponential (layout : Layout) (digits : List Char) (exponent : Int) : List Char :=
  let power := Nat.toDigits 10 exponent.natAbs
  digits.take 1 ++ (if digits.length ≤ 1 then [] else '.' :: digits.drop 1)
    ++ 'e' :: (if exponent < 0 then '-' else '+') :: zeros (layout.exponentDigits - power.length)
    ++ power

def write (layout : Layout) (d : Nat) (place : Int) : List Char :=
  let shown := Nat.toDigits 10 d
  let digits := (shown.reverse.dropWhile (· == '0')).reverse
  let exponent := shown.length + place - 1
  if layout.leastPositional ≤ exponent ∧ exponent ≤ layout.mostPositional then
    positional digits (exponent + 1)
  else exponential layout digits exponent

def ofBinary (layout : Layout) : Binary → List Char
  | .nan => "nan".toList
  | .infinite negative => (if negative then ['-'] else []) ++ "inf".toList
  | .finite negative mantissa exponent =>
    (if negative then ['-'] else []) ++
      if mantissa = 0 then ['0', '.', '0']
      else
        let (d, place) := shortest mantissa exponent
        write layout d place

end TreeTable.Decimal

import TreeTable.Decimal.Binary

/-!
The fewest decimal digits that read back as a given double. All comparisons are made between
natural numbers, so the result is exact.
-/

namespace TreeTable.Decimal

def tenTo (exponent : Nat) : Nat := Nat.pow 10 exponent

/-- The half-way points to the neighbouring doubles, in quarters of the last place: the lower
neighbour of a power of two is only half as far. -/
def halfGaps (mantissa : Nat) (exponent : Int) : Nat × Nat :=
  if mantissa = twoTo 52 ∧ -1074 < exponent then (1, 2) else (2, 2)

def magnitude (mantissa : Nat) (exponent : Int) : Int :=
  let scaled := mantissa * tenTo 400
  let whole :=
    if 0 ≤ exponent then scaled * twoTo exponent.toNat else scaled / twoTo (-exponent).toNat
  (Nat.toDigits 10 whole).length - 400

def onGrid? (m : Nat) (exponent place : Int) : Option Nat :=
  let up (quarters : Nat) : Nat := quarters * twoTo (exponent - 2).toNat * tenTo (-place).toNat
  let unit : Nat := twoTo (2 - exponent).toNat * tenTo place.toNat
  let (below, above) := halfGaps m exponent
  let value := up (4 * m)
  let low := up (4 * m - below)
  let high := up (4 * m + above)
  let reads (d : Nat) : Bool :=
    if m % 2 = 0 then low ≤ d * unit && d * unit ≤ high else low < d * unit && d * unit < high
  let d := value / unit
  match reads d, reads (d + 1) with
  | false, false => none
  | true, false => some d
  | false, true => some (d + 1)
  | true, true =>
    let left := value - d * unit
    let right := (d + 1) * unit - value
    if left < right then some d
    else if right < left then some (d + 1)
    else some (if d % 2 = 0 then d else d + 1)

def shortestFrom (mantissa : Nat) (exponent leading : Int) : (digits left : Nat) → Nat × Int
  | _, 0 => (0, 0)
  | digits, left + 1 =>
    let place := leading - digits
    match onGrid? mantissa exponent place with
    | some d => (d, place)
    | none => shortestFrom mantissa exponent leading (digits + 1) left

/-- A pair `(d, p)` such that `d * 10 ^ p` is the shortest decimal for `mantissa * 2 ^ exponent`. -/
def shortest (mantissa : Nat) (exponent : Int) : Nat × Int :=
  shortestFrom mantissa exponent (magnitude mantissa exponent) 1 17

end TreeTable.Decimal

namespace TreeTable

inductive Binary where
  | nan
  | infinite (negative : Bool)
  | finite (negative : Bool) (mantissa : Nat) (exponent : Int)
deriving Repr, DecidableEq

def twoTo (exponent : Nat) : Nat := Nat.pow 2 exponent

namespace Binary

def ofBits (bits : UInt64) : Binary :=
  let negative := bits >>> 63 == 1
  let exponent := ((bits >>> 52) &&& 0x7ff).toNat
  let mantissa := (bits &&& 0xfffffffffffff).toNat
  if exponent = 0x7ff then
    if mantissa = 0 then .infinite negative else .nan
  else if exponent = 0 then .finite negative mantissa (-1074)
  else .finite negative (mantissa + twoTo 52) (exponent - 1075)

def ofFloat (x : Float) : Binary := ofBits x.toBits

def toInt? : Binary → Option Int
  | .finite negative mantissa exponent =>
    let magnitude? :=
      if 0 ≤ exponent then some (mantissa * twoTo exponent.toNat)
      else
        let unit := twoTo (-exponent).toNat
        if mantissa % unit = 0 then some (mantissa / unit) else none
    magnitude?.map fun magnitude : Nat => if negative then -magnitude else magnitude
  | _ => none

def floor? : Binary → Option Int
  | .finite negative mantissa exponent =>
    let signed : Int := if negative then -mantissa else mantissa
    some (if 0 ≤ exponent then signed * twoTo exponent.toNat
      else signed.fdiv (twoTo (-exponent).toNat))
  | _ => none

def ceil? : Binary → Option Int
  | .finite negative mantissa exponent =>
    (floor? (.finite (!negative) mantissa exponent)).map Neg.neg
  | _ => none

/-- Where the number stands among all numbers: the sign of an infinity first, then how often it
holds the least positive double. -/
def rank? : Binary → Option (Int × Int)
  | .nan => none
  | .infinite negative => some (if negative then -1 else 1, 0)
  | .finite negative mantissa exponent =>
    let multiple : Int := mantissa * twoTo (exponent + 1074).toNat
    some (0, if negative then -multiple else multiple)

end Binary

end TreeTable

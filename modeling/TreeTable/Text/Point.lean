/-!
Code points: characters, and halves of surrogate pairs, which are none. A text with a half in it
cannot be encoded; where it is written out all the same, a mark stands for the half.
-/

namespace TreeTable

def isHighSurrogate (unit : Nat) : Bool := 0xd800 ≤ unit && unit ≤ 0xdbff

def isLowSurrogate (unit : Nat) : Bool := 0xdc00 ≤ unit && unit ≤ 0xdfff

def pairedUnits (high low : Nat) : Nat := 0x10000 + (high - 0xd800) * 0x400 + (low - 0xdc00)

inductive Point where
  | char (c : Char)
  | half (unit : Nat) (mark : Char)
deriving DecidableEq

namespace Point

def replacement : Char := '\ufffd'

def ofNat (point : Nat) : Point :=
  if point.isValidChar then .char (Char.ofNat point) else .half point replacement

def char? : Point → Option Char
  | .char c => some c
  | .half .. => none

def shown : Point → Char
  | .char c => c
  | .half _ mark => mark

def remark (mark : Char) : Point → Point
  | .char c => .char c
  | .half unit _ => .half unit mark

end Point

inductive Text where
  | whole (text : String)
  | broken (points : List Point)
deriving DecidableEq

instance : Coe String Text := ⟨.whole⟩

namespace Text

def ofPoints (points : List Point) : Text :=
  match points.mapM Point.char? with
  | some characters => .whole (String.ofList characters)
  | none => .broken points

def shown : Text → String
  | .whole text => text
  | .broken points => String.ofList (points.map Point.shown)

def remark (mark : Char) : Text → Text
  | .whole text => .whole text
  | .broken points => .broken (points.map (Point.remark mark))

end Text

end TreeTable

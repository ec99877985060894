import TreeTable.Value.Display
import TreeTable.Text.Integer

namespace TreeTable

inductive Measure where
  | rows
  | columns
deriving DecidableEq, Repr

inductive FailureKind where
  | inconsistent
  | unavailable
  | unknownKey
  | outOfRange
  | notFound
  | noSuchField
  | wrongType
  | badValue
  | undecodable
  | outOfBounds
  | tooMuch
  | other (name : String)
deriving DecidableEq, Repr

def FailureKind.isAbsence : FailureKind → Bool
  | .unknownKey | .outOfRange | .notFound | .noSuchField => true
  | _ => false

inductive Failure where
  | tooDeep
  | negativeCount (measure : Measure) (count : Int) (parent : Option String)
  | notRendered (title : String)
  | noLoop
  | unknownKey (registry key : String) (available : List String)
  | keyTaken (registry key owner : String)
  | brokenTitle
  | unknownOptions (registry key : String) (options : List String)
  | unknownConversion (given : Value)
  | unknownAxis (given : Value)
  | notAPair (position length : Nat)
  | tooManyDigits (count : Nat)
  | noSuchField
  | wrongType
  | outOfRange
  | undecodable
  | outOfBounds
  | tooMuch
  | exhausted
  | unencodable
  | raised (kind : FailureKind) (message : String)

namespace Failure

def kind : Failure → FailureKind
  | .tooDeep | .negativeCount .. | .notRendered _ => .inconsistent
  | .noLoop => .unavailable
  | .unknownKey .. => .unknownKey
  | .keyTaken .. | .brokenTitle | .unknownOptions .. | .unknownConversion _ | .unknownAxis _
  | .notAPair .. | .tooManyDigits _ => .badValue
  | .noSuchField => .noSuchField
  | .wrongType => .wrongType
  | .outOfRange => .outOfRange
  | .undecodable => .undecodable
  | .outOfBounds => .outOfBounds
  | .tooMuch => .tooMuch
  | .exhausted => .other "RecursionError"
  | .unencodable => .other "UnicodeEncodeError"
  | .raised kind _ => kind

def isAbsence (failure : Failure) : Bool := failure.kind.isAbsence

def message : Failure → String
  | .tooDeep => "cycle or excessive depth suspected"
  | .negativeCount measure count parent =>
    "negative " ++ (match measure with | .rows => "row" | .columns => "column") ++ " count "
      ++ toString count ++ " under " ++ parent.getD "None"
  | .notRendered title => title ++ " could not render the source"
  | .noLoop =>
    "TextView needs an event loop: pass loop= or create the view from a coroutine"
  | .unknownKey registry key available =>
    registry ++ ": unknown key '" ++ key ++ "'. Available: " ++ ", ".intercalate available
  | .keyTaken registry key owner =>
    registry ++ ": key '" ++ key ++ "' already registered to " ++ owner
  | .brokenTitle => "type name must not contain null characters"
  | .unknownOptions registry key options =>
    registry ++ ": unknown option(s) for '" ++ key ++ "': " ++ ", ".intercalate options
  | .unknownConversion given => given.inner ++ " is not a valid Conversion"
  | .unknownAxis given => given.inner ++ " is not a valid Axis"
  | .notAPair position length =>
    "dictionary update sequence element #" ++ toString position ++ " has length "
      ++ toString length ++ "; 2 is required"
  | .tooManyDigits count =>
    "Exceeds the limit (" ++ toString Integer.mostDigits
      ++ " digits) for integer string conversion: value has " ++ toString count
      ++ " digits; use sys.set_int_max_str_digits() to increase the limit"
  | .noSuchField => "no such field"
  | .wrongType => "wrong type"
  | .outOfRange => "index out of range"
  | .undecodable => "not a text"
  | .outOfBounds => "no such position"
  | .tooMuch => "more than can be kept"
  | .exhausted => "nested too deep"
  | .unencodable => "no character"
  | .raised _ message => message

end Failure

end TreeTable

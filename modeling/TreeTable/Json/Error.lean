import TreeTable.Failure

namespace TreeTable.Json

inductive Complaint where
  | noValue
  | noName
  | noColon
  | noComma
  | extraData
  | openString
  | controlCharacter
  | badEscape
  | badCodeEscape
  | byteOrderMark
  | tooManyDigits (count : Nat)
  | tooDeep
deriving DecidableEq, Repr

def Complaint.message : Complaint → String
  | .noValue => "Expecting value"
  | .noName => "Expecting property name enclosed in double quotes"
  | .noColon => "Expecting ':' delimiter"
  | .noComma => "Expecting ',' delimiter"
  | .extraData => "Extra data"
  | .openString => "Unterminated string starting at"
  | .controlCharacter => "Invalid control character at"
  | .badEscape => "Invalid \\escape"
  | .badCodeEscape => "Invalid \\uXXXX escape"
  | .byteOrderMark => "Unexpected UTF-8 BOM (decode using utf-8-sig)"
  | .tooManyDigits count => (Failure.tooManyDigits count).message
  | .tooDeep => Failure.exhausted.message

structure Error where
  complaint : Complaint
  position : Nat
deriving DecidableEq, Repr

def Error.message (error : Error) (text : List Char) : String :=
  let before := text.take error.position
  let line := before.count '\n' + 1
  let column := (before.reverse.takeWhile (· != '\n')).length + 1
  error.complaint.message ++ ": line " ++ toString line ++ " column " ++ toString column
    ++ " (char " ++ toString error.position ++ ")"

end TreeTable.Json

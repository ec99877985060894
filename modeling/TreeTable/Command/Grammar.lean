import TreeTable.Text.Quoted
import TreeTable.Text.Digit

namespace TreeTable.Command

inductive Arity where
  | none
  | one
  | optional
deriving DecidableEq, Repr

structure Switch where
  spellings : List String
  arity : Arity
deriving DecidableEq, Repr

inductive Operand where
  | single (label : String)
  | command (label : String)
deriving DecidableEq, Repr

structure Grammar where
  switches : List Switch
  operand : Operand

structure Complaint where
  subject : Option String
  text : String
deriving DecidableEq, Repr

namespace Complaint

def message (complaint : Complaint) : String :=
  match complaint.subject with
  | none => complaint.text
  | some subject => "argument " ++ subject ++ ": " ++ complaint.text

def invalidChoice (subject value : String) (choices : List String) : Complaint :=
  ⟨some subject, "invalid choice: " ++ quoted value ++ " (choose from "
    ++ ", ".intercalate (choices.map quoted) ++ ")"⟩

def invalidNumber (subject value : String) : Complaint :=
  ⟨some subject, "invalid int value: " ++ quoted value⟩

end Complaint

namespace Switch

def label (switch : Switch) : String := "/".intercalate switch.spellings

def ignored (switch : Switch) (argument : String) : Complaint :=
  ⟨some switch.label, "ignored explicit argument " ++ quoted argument⟩

end Switch

structure Given where
  switch : Switch
  short : Bool
  attached : Option String
deriving DecidableEq, Repr

inductive Mark where
  | argument
  | dashes
  | switch (given : Option Given)
deriving DecidableEq, Repr

def splitAtEquals (text : List Char) : List Char × Option (List Char) :=
  match text.dropWhile (· ≠ '=') with
  | [] => (text, none)
  | _ :: rest => (text.takeWhile (· ≠ '='), some rest)

def isDigits (text : List Char) : Bool := !text.isEmpty && text.all fun c => (digit? c).isSome

def isNegativeNumber (text : List Char) : Bool :=
  match if text.getLast? = some '\n' then text.dropLast else text with
  | '-' :: rest =>
    isDigits rest ||
      match rest.dropWhile fun c => (digit? c).isSome with
      | '.' :: fraction => isDigits fraction
      | _ => false
  | _ => false

namespace Grammar

def isShort (spelling : String) : Bool :=
  match spelling.toList with
  | '-' :: '-' :: _ => false
  | _ => true

def spelled (grammar : Grammar) : List (String × Switch) :=
  grammar.switches.flatMap fun switch => switch.spellings.map (·, switch)

def spelling? (grammar : Grammar) (word : List Char) : Option (String × Switch) :=
  grammar.spelled.find? fun (spelling, _) => spelling.toList == word

def candidates (grammar : Grammar) (word : List Char) : List (String × Given) :=
  match word with
  | '-' :: '-' :: _ =>
    let (start, argument) := splitAtEquals word
    (grammar.spelled.filter fun (spelling, _) => start.isPrefixOf spelling.toList).map
      fun (spelling, switch) =>
        (spelling, ⟨switch, isShort spelling, argument.map String.ofList⟩)
  | _ =>
    grammar.spelled.filterMap fun (spelling, switch) =>
      if spelling.toList = word.take 2 then
        some (spelling, ⟨switch, true, some (String.ofList (word.drop 2))⟩)
      else if word.isPrefixOf spelling.toList then
        some (spelling, ⟨switch, isShort spelling, none⟩)
      else none

def mark (grammar : Grammar) (text : String) : Except Complaint Mark :=
  let word := text.toList
  if word.head? ≠ some '-' then .ok .argument
  else
    match grammar.spelling? word with
    | some (spelling, switch) => .ok (.switch (some ⟨switch, isShort spelling, none⟩))
    | none =>
      if word.length = 1 then .ok .argument
      else
        let (start, argument) := splitAtEquals word
        match argument, grammar.spelling? start with
        | some rest, some (spelling, switch) =>
          .ok (.switch (some ⟨switch, isShort spelling, some (String.ofList rest)⟩))
        | _, _ =>
          match grammar.candidates word with
          | [(_, given)] => .ok (.switch (some given))
          | [] =>
            if isNegativeNumber word || word.contains ' ' then .ok .argument
            else .ok (.switch none)
          | several => .error ⟨none, "ambiguous option: " ++ text ++ " could match "
              ++ ", ".intercalate (several.map Prod.fst)⟩

def marks (grammar : Grammar) : List String → Except Complaint (List (String × Mark))
  | [] => .ok []
  | "--" :: rest => .ok (("--", .dashes) :: rest.map (·, .argument))
  | word :: rest => do
    let mark ← grammar.mark word
    return (word, mark) :: (← marks grammar rest)

end Grammar

inductive Finding where
  | switch (switch : Switch) (arguments : List String)
  | operand (values : List String)
deriving DecidableEq, Repr

structure Reading where
  findings : List Finding := []
  extras : List String := []
  operandSeen : Bool := false
  complaint : Option Complaint := none

namespace Reading

def add (reading : Reading) (findings : List Finding) : Reading :=
  { reading with findings := reading.findings ++ findings }

def addExtras (reading : Reading) (words : List String) : Reading :=
  { reading with extras := reading.extras ++ words }

end Reading

abbrev Marked := List (String × Mark)

def isSwitch (word : String × Mark) : Bool :=
  match word.2 with
  | .switch _ => true
  | _ => false

def argumentsBehind (switch : Switch) (following : Marked) : Except Complaint (List String) :=
  match switch.arity, following with
  | .none, _ => .ok []
  | _, (word, .argument) :: _ => .ok [word]
  | .optional, _ => .ok []
  | .one, _ => .error ⟨some switch.label, "expected one argument"⟩

def attachedArguments (text : String) : List String := if text = "--" then [] else [text]

def unfold (grammar : Grammar) (following : Marked) :
    (fuel : Nat) → Given → Except Complaint (List Finding × Nat)
  | 0, given => .error (given.switch.ignored "")
  | fuel + 1, ⟨switch, short, attached⟩ =>
    match attached with
    | none => do
      let arguments ← argumentsBehind switch following
      return ([.switch switch arguments], arguments.length)
    | some text =>
      if switch.arity ≠ .none then .ok ([.switch switch (attachedArguments text)], 0)
      else
        match text.toList with
        | [] => .error (switch.ignored text)
        | letter :: rest =>
          match if short then grammar.spelling? ['-', letter] else none with
          | none => .error (switch.ignored text)
          | some (_, next) => do
            let attached := if rest.isEmpty then none else some (String.ofList rest)
            let (findings, count) ← unfold grammar following fuel ⟨next, true, attached⟩
            return (.switch switch [] :: findings, count)

def operandLength? (operand : Operand) (words : Marked) : Option Nat :=
  let isDashes (word : String × Mark) : Bool := word.2 == .dashes
  let dashes := (words.takeWhile isDashes).length
  match words.drop dashes with
  | (_, .argument) :: rest =>
    match operand with
    | .single _ => some (dashes + 1 + (rest.takeWhile isDashes).length)
    | .command _ => some words.length
  | _ => none

def operandValues (operand : Operand) (words : List String) : List String :=
  match operand with
  | .single _ => words.erase "--"
  | .command _ => words

def takeOperand (grammar : Grammar) (words : Marked) (reading : Reading) : Option (Nat × Reading) :=
  if reading.operandSeen then none
  else
    (operandLength? grammar.operand words).map fun count =>
      let values := operandValues grammar.operand ((words.take count).map Prod.fst)
      (count, { reading.add [.operand values] with operandSeen := true })

def readMarked (grammar : Grammar) (words : Marked) (reading : Reading) : Reading :=
  match words with
  | [] => reading
  | (word, mark) :: rest =>
    match mark with
    | .switch none => readMarked grammar rest (reading.addExtras [word])
    | .switch (some given) =>
      match unfold grammar rest (word.length + 1) given with
      | .error complaint => { reading with complaint := some complaint }
      | .ok (findings, count) => readMarked grammar (rest.drop count) (reading.add findings)
    | .argument | .dashes =>
      match takeOperand grammar ((word, mark) :: rest) reading with
      | some (count, reading) => readMarked grammar (rest.drop (count - 1)) reading
      | none =>
        readMarked grammar (rest.dropWhile fun next => !isSwitch next)
          (reading.addExtras (word :: (rest.takeWhile fun next => !isSwitch next).map Prod.fst))
termination_by words.length
decreasing_by
  · simp
  · simp only [List.length_drop, List.length_cons]
    omega
  · simp only [List.length_drop, List.length_cons]
    omega
  · exact Nat.lt_succ_of_le (List.dropWhile_sublist _).length_le

def read (grammar : Grammar) (words : List String) : Reading :=
  match grammar.marks words with
  | .error complaint => { complaint := some complaint }
  | .ok marked => readMarked grammar marked {}

end TreeTable.Command

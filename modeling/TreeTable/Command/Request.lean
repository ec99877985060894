import TreeTable.Command.Grammar
import TreeTable.Command.Usage
import TreeTable.Text.Integer

namespace TreeTable.Command

def helpSwitch : Switch := ⟨["-h", "--help"], .none⟩
def formatSwitch : Switch := ⟨["--format"], .one⟩
def verboseSwitch : Switch := ⟨["-v", "--verbose"], .none⟩
def maxRowsSwitch : Switch := ⟨["--max-rows"], .one⟩
def noHeadersSwitch : Switch := ⟨["--no-headers"], .none⟩
def rowHeadersSwitch : Switch := ⟨["--row-headers"], .none⟩
def separatorSwitch : Switch := ⟨["--separator"], .one⟩
def pageSwitch : Switch := ⟨["--page"], .optional⟩

def topGrammar : Grammar := ⟨[helpSwitch, formatSwitch, verboseSwitch], .command "command"⟩

def renderGrammar : Grammar where
  switches := [helpSwitch, maxRowsSwitch, noHeadersSwitch, rowHeadersSwitch, separatorSwitch,
    pageSwitch]
  operand := .single "FILE"

structure Request where
  format : Value := .text "html-table"
  verbose : Bool := false
  file : Option String := none
  maxRows : Option Value := none
  noHeaders : Bool := false
  rowHeaders : Bool := false
  separator : Option Value := none
  page : Option String := none

/-- What an option is set to by its one argument. Where two dashes stand for the argument there is
none left, and the option is set to the empty list. -/
def setting (arguments : List String) : Value :=
  match arguments with
  | [] => .list []
  | word :: _ => .text word

inductive Refusal where
  | help (level : Level)
  | wrong (level : Level) (message : String)
deriving DecidableEq, Repr

namespace Request

def complain {α : Type} (level : Level) (complaint : Complaint) : Except Refusal α :=
  .error (.wrong level complaint.message)

def takeRender (request : Request) : Finding → Except Refusal Request
  | .operand values => .ok { request with file := values.head? }
  | .switch switch arguments =>
    if switch = helpSwitch then .error (.help .render)
    else if switch = maxRowsSwitch then
      match setting arguments with
      | .text text =>
        match Integer.read? text.toList with
        | none => complain .render (.invalidNumber switch.label text)
        | some rows => .ok { request with maxRows := some (.int rows) }
      | given => .ok { request with maxRows := some given }
    else if switch = noHeadersSwitch then .ok { request with noHeaders := true }
    else if switch = rowHeadersSwitch then .ok { request with rowHeaders := true }
    else if switch = separatorSwitch then
      .ok { request with separator := some (setting arguments) }
    else .ok { request with page := some (arguments.headD "") }

def ofRender (request : Request) (words : List String) : Except Refusal (Request × List String) :=
  let reading := read renderGrammar words
  do
    let request ← reading.findings.foldlM takeRender request
    if let some complaint := reading.complaint then complain .render complaint
    if !reading.operandSeen then
      complain .render ⟨none, "the following arguments are required: FILE"⟩
    return (request, reading.extras)

structure Gathered where
  request : Request := {}
  named : Bool := false
  extras : List String := []

def takeTop (state : Gathered) : Finding → Except Refusal Gathered
  | .operand values =>
    let name := values.headD ""
    if name = "render" then do
      let (request, extras) ← ofRender state.request (values.drop 1)
      return { request, named := true, extras }
    else complain .top (.invalidChoice "command" name ["render"])
  | .switch switch arguments =>
    if switch = helpSwitch then .error (.help .top)
    else if switch = verboseSwitch then
      .ok { state with request := { state.request with verbose := true } }
    else
      match setting arguments with
      | .text format =>
        if Format.keys.contains format then
          .ok { state with request := { state.request with format := .text format } }
        else complain .top (.invalidChoice switch.label format Format.keys)
      | given => .ok { state with request := { state.request with format := given } }

def ofLine (words : List String) : Except Refusal (Option Request) :=
  let reading := read topGrammar words
  do
    let state ← reading.findings.foldlM takeTop {}
    if let some complaint := reading.complaint then complain .top complaint
    let extras := reading.extras ++ state.extras
    if !extras.isEmpty then
      complain .top ⟨none, "unrecognized arguments: " ++ " ".intercalate extras⟩
    return if state.named then some state.request else none

end Request

end TreeTable.Command

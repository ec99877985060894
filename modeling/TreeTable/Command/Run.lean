import TreeTable.Command.Request
import TreeTable.Dashboard.Action
import TreeTable.Json.Read
import TreeTable.Text.LineEnd

/-!
Carrying out a command line: a view is attached to the tree of the file, the loop turns once, and
the text of the view is printed.
-/

namespace TreeTable.Command

inductive Ending where
  | returned (code : Nat)
  | exited (code : Nat)
  | exitedWith (message : String)
  | failed (failure : Failure)

structure Outcome where
  ending : Ending
  output : String := ""
  errors : String := ""

inductive Plan where
  | finished (outcome : Outcome)
  | needs (file : String) (request : Request)

def plan (words : List String) : Plan :=
  match Request.ofLine words with
  | .error (.help level) => .finished { ending := .exited 0, output := level.help }
  | .error (.wrong level message) =>
    .finished { ending := .exited 2, errors := level.report message }
  | .ok none => .finished { ending := .returned 1, output := Level.help .top }
  | .ok (some request) =>
    match request.file with
    | none | some "" =>
      .finished { ending := .exitedWith "Error: No file provided. Usage: tview.py render FILE" }
    | some file => .needs file request

namespace Request

def options (request : Request) : List (String × Value) :=
  [("column_headers", .bool !request.noHeaders), ("row_headers", .bool request.rowHeaders)]
    ++ (request.separator.map ("separator", ·)).toList
    ++ (request.maxRows.map ("max_rows", ·)).toList

def board (request : Request) (language : Page.Language) (tree : Tree) : Dashboard :=
  [Action.defineSerializer "serializer" request.format none (.ok {}) request.options,
    .defineSource "source" (some (.tree tree none)),
    .defineView "view" "serializer" (some "source"),
    .turn].foldl (fun board action => (board.perform action).2) { loop := .forgiving, language }

def shownText (request : Request) (board : Dashboard) (text : Value) : Except Failure String :=
  match request.page with
  | none => text.asText
  | some title => do
    let (_, board) ← board.attempt (.definePage "page" none (.text title))
    let (_, board) ← board.attempt (.addToPage "page" "view")
    match ← board.attempt (.renderPage "page") with
    | (.text (some text), _) => return text
    | _ => return ""

def text (request : Request) (board : Dashboard) : Except Failure String := do
  let (_, view) ← Dashboard.find board.views "view"
  if view.renders = 0 then
    throw (.notRendered (((Format.registry.entries.value? request.format).map
      Registered.title).getD ""))
  request.shownText board view.text

end Request

def logLines (verbose : Bool) (log : List Notice) : String :=
  String.join ((log.filter fun notice => verbose || notice.isWarning).map fun notice =>
    "[" ++ notice.logger ++ "] " ++ notice.message ++ "\n")

def withLineEnd (text : String) : String :=
  if text.toList.getLast? = some '\n' then text else text ++ "\n"

/-- What a command finds around it. The stack lets so many lists and objects of a JSON text, and so
many rows, stand inside each other. A strict output encodes what is printed and turns halves of
surrogate pairs down; any other one shows their marks. Nothing else is taken to fail for the stack. -/
structure Host where
  files : String → Option ByteArray
  language : Page.Language
  jsonLevels : Nat
  rowLevels : Nat
  strict : Bool

def treeFor (host : Host) (request : Request) (value : Value) : Except Failure Tree := do
  let _ ← Serializer.create request.format {} .plain request.options
  Tree.ofValue host.rowLevels value

/-- Halves of surrogate pairs are shown exactly if the text is another one with another mark for
them: nothing else depends on marks. -/
def showsHalves (host : Host) (request : Request) (value : Value) (text : String) : Bool :=
  match treeFor host request (value.remark '?') with
  | .error _ => true
  | .ok tree =>
    match request.text (request.board host.language tree) with
    | .ok other => other != text
    | .error _ => true

def showValue (host : Host) (file : String) (request : Request) (value : Value) : Outcome :=
  match treeFor host request value with
  | .error failure => { ending := .failed failure }
  | .ok tree =>
    let board := request.board host.language tree
    let errors := logLines request.verbose board.log
    match request.text board with
    | .ok text =>
      if host.strict && showsHalves host request value text then
        { ending := .failed .unencodable, errors }
      else { ending := .returned 0, output := withLineEnd text, errors }
    | .error failure =>
      if failure.kind = .inconsistent then
        let message := "Error: Cannot render " ++ file ++ ": " ++ failure.message
        { ending := .exitedWith message, errors }
      else { ending := .failed failure, errors }

def showFile (host : Host) (file : String) (request : Request) : Option ByteArray → Outcome
  | none => { ending := .exitedWith ("Error: File not found: " ++ file) }
  | some bytes =>
    match String.fromUTF8? bytes with
    | none => { ending := .failed .undecodable }
    | some content =>
      let text := normalizeLines content.toList
      match Json.read host.jsonLevels text with
      | .error error =>
        match error.complaint with
        | .tooManyDigits count => { ending := .failed (.tooManyDigits count) }
        | .tooDeep => { ending := .failed .exhausted }
        | _ =>
          let message := "Error: Invalid JSON in " ++ file ++ ": " ++ error.message text
          { ending := .exitedWith message }
      | .ok value => showValue host file request value

def run (words : List String) (host : Host) : Outcome :=
  match plan words with
  | .finished outcome => outcome
  | .needs file request => showFile host file request (host.files file)

end TreeTable.Command

import TreeTable.Command.Run

open TreeTable TreeTable.Command

def readFile? (name : String) : IO (Option ByteArray) := do
  try return some (← IO.FS.readBinFile name)
  catch _ => return none

def host : Host where
  files _ := none
  language := .ofDefault
  jsonLevels := 1000
  rowLevels := 500
  strict := true

def finish (outcome : Outcome) : IO UInt32 := do
  IO.print outcome.output
  IO.eprint outcome.errors
  match outcome.ending with
  | .returned code | .exited code => return code.toUInt32
  | .exitedWith message =>
    IO.eprintln message
    return 1
  | .failed failure =>
    IO.eprintln failure.message
    return 1

def main (words : List String) : IO UInt32 := do
  match plan words with
  | .finished outcome => finish outcome
  | .needs file request => finish (showFile host file request (← readFile? file))

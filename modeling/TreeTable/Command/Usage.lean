import TreeTable.Serializer

namespace TreeTable.Command

inductive Level where
  | top
  | render
deriving DecidableEq, Repr

namespace Level

def program : Level → String
  | .top => "tview.py"
  | .render => "tview.py render"

def topUsage : String :=
  "usage: tview.py [-h] [--format \x7bcsv,csv-tree,html-set,html-list,html-table\x7d]\n" ++
  "                [-v]\n" ++
  "                \x7brender\x7d ...\n"

def renderUsage : String :=
  "usage: tview.py render [-h] [--max-rows MAX_ROWS] [--no-headers]\n" ++
  "                       [--row-headers] [--separator SEPARATOR]\n" ++
  "                       [--page [TITLE]]\n" ++
  "                       FILE\n"

def usage : Level → String
  | .top => topUsage
  | .render => renderUsage

def formatLine (key summary : String) : String :=
  "  " ++ key ++ String.ofList (List.replicate (12 - key.length) ' ') ++ summary ++ "\n"

def formatLines : String :=
  String.join (Format.all.map fun format => formatLine format.key (summary format.description))

def topDescription : String :=
  "\n" ++
  "Render tree-tables as CSV or HTML text.\n" ++
  "\n" ++
  "positional arguments:\n" ++
  "  \x7brender\x7d\n" ++
  "    render              Render a JSON tree file.\n" ++
  "\n" ++
  "options:\n" ++
  "  -h, --help            show this help message and exit\n" ++
  "  --format \x7bcsv,csv-tree,html-set,html-list,html-table\x7d\n" ++
  "                        Output format (default: html-table).\n" ++
  "  -v, --verbose         Log scheduling and rendering details.\n" ++
  "\n" ++
  "formats:\n"

def renderDescription : String :=
  "\n" ++
  "positional arguments:\n" ++
  "  FILE                  JSON file describing headers and rows.\n" ++
  "\n" ++
  "options:\n" ++
  "  -h, --help            show this help message and exit\n" ++
  "  --max-rows MAX_ROWS   Row cap of HTML tables (default: 100, 0 for none).\n" ++
  "  --no-headers          Omit the column header row.\n" ++
  "  --row-headers         Print row headers in front of each row.\n" ++
  "  --separator SEPARATOR\n" ++
  "                        Field separator (default depends on the format).\n" ++
  "  --page [TITLE]        Wrap the output in a complete HTML page.\n"

def help : Level → String
  | .top => topUsage ++ topDescription ++ formatLines
  | .render => renderUsage ++ renderDescription

def report (level : Level) (message : String) : String :=
  level.usage ++ level.program ++ ": error: " ++ message ++ "\n"

end Level

end TreeTable.Command

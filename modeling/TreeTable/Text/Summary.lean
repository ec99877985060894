import TreeTable.Text.Blank

namespace TreeTable.Summary

def tabWidth : Nat := 8

def expandTabs (column : Nat) : List Char → List Char
  | [] => []
  | c :: rest =>
    if c = '\t' then
      let width := tabWidth - column % tabWidth
      List.replicate width ' ' ++ expandTabs (column + width) rest
    else if c = '\n' || c = '\r' then c :: expandTabs 0 rest
    else c :: expandTabs (column + 1) rest

def lines : List Char → List (List Char)
  | [] => [[]]
  | c :: rest =>
    if c = '\n' then [] :: lines rest
    else
      match lines rest with
      | [] => [[c]]
      | line :: more => (c :: line) :: more

def indentation? (line : List Char) : Option Nat :=
  let content := dropBlank line
  if content.isEmpty then none else some (line.length - content.length)

def margin (lines : List (List Char)) : Nat := ((lines.filterMap indentation?).min?).getD 0

def cleaned (text : List Char) : List (List Char) :=
  match lines (expandTabs 0 text) with
  | [] => []
  | first :: others =>
    let kept := dropBlank first :: others.map (List.drop (margin others))
    ((kept.reverse.dropWhile List.isEmpty).reverse).dropWhile List.isEmpty

def isLineBreak (c : Char) : Bool :=
  c == '\n' || c == '\r' || c == '\x0b' || c == '\x0c' || c == '\x1c' || c == '\x1d' || c == '\x1e'
    || c == '\u0085' || c == '\u2028' || c == '\u2029'

end TreeTable.Summary

namespace TreeTable

def summary (description : String) : String :=
  match Summary.cleaned description.toList with
  | [] => ""
  | first :: _ => String.ofList (first.takeWhile fun c => !Summary.isLineBreak c)

end TreeTable

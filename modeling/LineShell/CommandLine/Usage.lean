import LineShell.CommandLine.Flag
import LineShell.CommandLine.Wrapping
import LineShell.Files.Home
import LineShell.Text.Integer

namespace LineShell.CommandLine

def programName : String := "pathshell"

def columns (environment : Files.Environment) : Int :=
  match (environment.lookup "COLUMNS").map fun s => Text.Integer.read 10 s.toList with
  | some (.ok n) => if n ≤ 0 then 80 else n
  | _ => 80

def textWidth (columns : Int) : Int := columns - 2

def optional (s : String) : String := "[" ++ s ++ "]"

def flagCalls : List String :=
  Flag.all.map fun f => optional (f.spellings.headD "")

def otherCalls : List String := [optional "script"]

def spaces (n : Nat) : String := String.ofList (List.replicate n ' ')

/-- Breaks parts into lines; the first line has `used` columns taken up, every later one the
indentation. -/
def fillLines (width : Int) (indent : Nat) : (used : Nat) → (line : List String) → List String →
    List (List String)
  | _, line, [] => if line.isEmpty then [] else [line]
  | used, line, part :: r =>
    if ((used + part.length : Nat) : Int) > width ∧ !line.isEmpty then
      line :: fillLines width indent (indent + part.length + 1) [part] r
    else fillLines width indent (used + part.length + 1) (line ++ [part]) r

def indentedLines (width : Int) (indent : Nat) (parts : List String) : List String :=
  (fillLines width indent indent [] parts).map fun line =>
    spaces indent ++ String.intercalate " " line

def callPrefix : String := "usage: "

/-- How the program is called, in lines: on one line if it fits; else the flags after the name, or
below it where the lines are short, and the other arguments on lines of their own. -/
def callLines (width : Int) : List String :=
  let whole := String.intercalate " " (programName :: flagCalls ++ otherCalls)
  if ((callPrefix.length + whole.length : Nat) : Int) ≤ width then [whole]
  else if (4 * (callPrefix.length + programName.length) : Nat) ≤ 3 * width then
    let indent := callPrefix.length + programName.length + 1
    let flags := fillLines width indent callPrefix.length [] (programName :: flagCalls)
    (flags.head?.getD []).foldr (fun part rest =>
      if rest.isEmpty then part else part ++ " " ++ rest) "" ::
      (flags.drop 1).map (fun line => spaces indent ++ String.intercalate " " line) ++
      indentedLines width indent otherCalls
  else
    let indent := callPrefix.length
    let together := indentedLines width indent (flagCalls ++ otherCalls)
    programName ::
      if together.length > 1 then
        indentedLines width indent flagCalls ++ indentedLines width indent otherCalls
      else together

def usage (columns : Int) : String :=
  callPrefix ++ String.intercalate "\n" (callLines (textWidth columns)) ++ "\n"

def explanations : List (String × String) × List (String × String) :=
  ([("script", "Script file to run (default: read from standard input)")],
    Flag.all.map fun f => (String.intercalate ", " f.spellings, f.explanation))

def longestArgument : Nat :=
  (explanations.1 ++ explanations.2).foldl (fun n e => max n (e.1.length + 2)) 0

def explain (column width : Nat) (e : String × String) : String :=
  let head := "  " ++ e.1
  let lines := wrap width e.2
  let (start, rest) :=
    if e.1.length + 4 ≤ column then
      (head ++ spaces (column - head.length) ++ lines.headD "" ++ "\n", lines.drop 1)
    else (head ++ "\n", lines)
  start ++ String.join (rest.map fun l => spaces column ++ l ++ "\n")

def helpText (columns : Int) : String :=
  let width := textWidth columns
  let column := (min ((longestArgument + 2 : Nat) : Int) (min 24 (max (width - 20) 4))).toNat
  let room := (max (width - column) 11).toNat
  let part (title : String) (es : List (String × String)) : String :=
    title ++ ":\n" ++ String.join (es.map (explain column room)) ++ "\n"
  usage columns ++
  "\n" ++
  "Minimal line-oriented command shell\n" ++
  "\n" ++
  part "positional arguments" explanations.1 ++
  part "options" explanations.2 ++
  "Line syntax:\n" ++
  "  <command> [arg]... [> <path>]\n" ++
  "Builtins: echo, exit\n"

def complaint (message : String) : String := programName ++ ": " ++ message

def UsageError.text (columns : Int) (e : UsageError) : String :=
  usage columns ++ complaint ("error: " ++ e.message) ++ "\n"

end LineShell.CommandLine

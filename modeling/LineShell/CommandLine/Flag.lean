import LineShell.Text.Literal

namespace LineShell.CommandLine

inductive Flag where
  | help
  | command
  | config
  | verbose
  | quiet
deriving Repr, DecidableEq

namespace Flag

def all : List Flag := [help, command, config, verbose, quiet]

def word : Flag → String
  | help => "help"
  | command => "command"
  | config => "config"
  | verbose => "verbose"
  | quiet => "quiet"

def letter : Flag → Option Char
  | help => some 'h'
  | command => some 'c'
  | config => none
  | verbose => some 'v'
  | quiet => some 'q'

def takesValue : Flag → Bool
  | command | config => true
  | help | verbose | quiet => false

def ofLetter? (c : Char) : Option Flag := all.find? fun f => f.letter == some c

def long (f : Flag) : String := "--" ++ f.word

def valueName : Flag → Option String
  | command => some "LINE"
  | config => some "CONFIG"
  | help | verbose | quiet => none

def spellings (f : Flag) : List String :=
  let short := (f.letter.map fun c => "-" ++ c.toString).toList
  let all := match f with
    | help => short ++ [f.long]
    | _ => f.long :: short
  all.map fun s => s ++ ((f.valueName.map fun v => " " ++ v).getD "")

def explanation : Flag → String
  | help => "show this help message and exit"
  | command => "Execute a single line and exit"
  | config => "Path to configuration file (default: ~/.pathshell.yaml if present)"
  | verbose => "Enable verbose (debug) logging"
  | quiet => "Only log errors"

def title (f : Flag) : String :=
  match f with
  | help => "-h/--help"
  | _ => f.long ++ ((f.letter.map fun c => "/-" ++ c.toString).getD "")

def completions (s : List Char) : List Flag := all.filter fun f => s.isPrefixOf f.word.toList

end Flag

inductive UsageError where
  | ambiguous (given : String) (flags : List Flag)
  | missingValue (flag : Flag)
  /-- A value for a flag that takes none. -/
  | extraValue (flag : Flag) (value : String)
  | unrecognized (words : List String)
  /-- Both a script and a single line are given. -/
  | twoSources
deriving Repr, DecidableEq

def UsageError.message : UsageError → String
  | ambiguous given flags =>
    "ambiguous option: " ++ given ++ " could match " ++
      String.intercalate ", " (flags.map Flag.long)
  | missingValue flag => "argument " ++ flag.title ++ ": expected one argument"
  | extraValue flag value =>
    "argument " ++ flag.title ++ ": ignored explicit argument " ++ Text.Literal.ofString value
  | unrecognized words => "unrecognized arguments: " ++ String.intercalate " " words
  | twoSources => "a script file and --command are mutually exclusive"

end LineShell.CommandLine

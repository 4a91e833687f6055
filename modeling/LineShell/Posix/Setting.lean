import LineShell.Posix.Octets

namespace LineShell.Posix

inductive Setting where
  /-- A command that fails ends the script. -/
  | stopsOnFailure
  /-- Patterns stand for themselves. -/
  | keepsPatterns
  | ignoresEnd
  | interactive
  | monitor
  /-- Commands are read but not run. -/
  | onlyReads
  /-- The script is standard input. -/
  | standardInput
  /-- Commands are shown before they are run. -/
  | traces
  /-- The script is shown while it is read. -/
  | shows
  | editsByMode
  | editsByKey
  /-- A redirection does not empty a file. -/
  | keepsFiles
  /-- Programs inherit the variables that are set. -/
  | exportsAll
  | notifies
  /-- A variable without a value may not be used. -/
  | refusesUnset
  | privileged
  | keepsNoLog
  | debugs
deriving Repr, DecidableEq

namespace Setting

def all : List Setting :=
  [stopsOnFailure, keepsPatterns, ignoresEnd, interactive, monitor, onlyReads, standardInput,
    traces, shows, editsByMode, editsByKey, keepsFiles, exportsAll, notifies, refusesUnset,
    privileged, keepsNoLog, debugs]

def name : Setting → String
  | stopsOnFailure => "errexit"
  | keepsPatterns => "noglob"
  | ignoresEnd => "ignoreeof"
  | interactive => "interactive"
  | monitor => "monitor"
  | onlyReads => "noexec"
  | standardInput => "stdin"
  | traces => "xtrace"
  | shows => "verbose"
  | editsByMode => "vi"
  | editsByKey => "emacs"
  | keepsFiles => "noclobber"
  | exportsAll => "allexport"
  | notifies => "notify"
  | refusesUnset => "nounset"
  | privileged => "privileged"
  | keepsNoLog => "nolog"
  | debugs => "debug"

def letter? : Setting → Option Char
  | stopsOnFailure => some 'e'
  | keepsPatterns => some 'f'
  | ignoresEnd => some 'I'
  | interactive => some 'i'
  | monitor => some 'm'
  | onlyReads => some 'n'
  | standardInput => some 's'
  | traces => some 'x'
  | shows => some 'v'
  | editsByMode => some 'V'
  | editsByKey => some 'E'
  | keepsFiles => some 'C'
  | exportsAll => some 'a'
  | notifies => some 'b'
  | refusesUnset => some 'u'
  | privileged => some 'p'
  | keepsNoLog | debugs => none

def ofName? (name : Octets) : Option Setting := all.find? fun s => s.name.toList == name

def ofLetter? (letter : Char) : Option Setting := all.find? fun s => s.letter? == some letter

end Setting

abbrev Settings := List Setting

namespace Settings

def has (o : Settings) (s : Setting) : Bool := o.contains s

def turn (o : Settings) (on : Bool) (s : Setting) : Settings :=
  let others := o.filter (· ≠ s)
  if on then s :: others else others

/-- Turns the setting of a letter on or off. Of the two ways of editing, one turns off the other. -/
def turnLetter (o : Settings) (on : Bool) (s : Setting) : Settings :=
  match on, s with
  | true, .editsByMode => (o.turn false .editsByKey).turn true s
  | true, .editsByKey => (o.turn false .editsByMode).turn true s
  | on, s => o.turn on s

def letters (o : Settings) : Octets := (Setting.all.reverse.filter o.has).filterMap (·.letter?)

def listing (o : Settings) : Octets :=
  let line (s : Setting) : Octets :=
    let name := s.name.toList
    name ++ List.replicate (16 - name.length) ' ' ++ (if o.has s then "on" else "off").toList ++
      ['\n']
  "Current option settings\n".toList ++ (Setting.all.map line).flatten

def commands (o : Settings) : Octets :=
  (Setting.all.map fun s =>
    ("set " ++ (if o.has s then "-" else "+") ++ "o " ++ s.name ++ "\n").toList).flatten

structure Change where
  settings : Settings
  /-- What is printed, if a list was asked for. -/
  listing : Octets
  /-- The arguments after those about settings. -/
  rest : List Octets
  /-- Whether the arguments of the script are to be replaced even by none. -/
  replaces : Bool
  /-- Whether a command follows, as `c` among the letters says. -/
  takesCommand : Bool

/-- Turns settings on and off as letters say. The letter `o` takes a name from the arguments. -/
def turnAll (isStart on : Bool) : Octets → Change → Except Octets Change
  | [], c => .ok c
  | letter :: letters, c =>
    if letter = 'c' ∧ isStart then turnAll isStart on letters { c with takesCommand := true }
    else if letter = 'l' ∧ isStart then turnAll isStart on letters c
    else if letter = 'o' then
      match c.rest with
      | [] =>
        turnAll isStart on letters
          { c with listing := c.listing ++ if on then c.settings.listing else c.settings.commands }
      | name :: rest =>
        match Setting.ofName? name with
        | some s =>
          turnAll isStart on letters { c with settings := c.settings.turn on s, rest := rest }
        | none => .error ("Illegal option -o ".toList ++ name)
    else
      match Setting.ofLetter? letter with
      | some s => turnAll isStart on letters { c with settings := c.settings.turnLetter on s }
      | none => .error ("Illegal option -".toList ++ [letter])

/-- Turns settings on and off as the arguments in front say, up to the first that is about none.
`isStart` says that they are those that the interpreter is started with. -/
def change (isStart : Bool) : (budget : Nat) → Change → Except Octets Change
  | 0, c => .ok c
  | n + 1, c =>
    match c.rest with
    | [] => .ok c
    | arg :: rest =>
      match arg with
      | ['-'] =>
        .ok { c with
          rest := rest
          settings := if isStart then c.settings
            else (c.settings.turn false .traces).turn false .shows }
      | ['-', '-'] => .ok { c with rest := rest, replaces := true }
      | sign :: letters =>
        if sign ≠ '-' ∧ sign ≠ '+' then .ok c
        else do change isStart n (← turnAll isStart (sign = '-') letters { c with rest := rest })
      | [] => .ok c

def read (o : Settings) (isStart : Bool) (args : List Octets) : Except Octets Change :=
  change isStart (args.length + 1) ⟨o, [], args, false, false⟩

end Settings

end LineShell.Posix

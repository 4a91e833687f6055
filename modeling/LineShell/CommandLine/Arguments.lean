import LineShell.CommandLine.Word
import LineShell.Files.Path

namespace LineShell.CommandLine

inductive Given where
  | text (s : String)
  /-- Two dashes attached to a flag are no value, nor is anything else one in their place. -/
  | dashes
deriving Repr, DecidableEq

def Given.ofString (s : String) : Given := if s = "--" then .dashes else .text s

structure Arguments where
  script : Option String
  command : Option Given
  config : Option Given
  verbose : Bool
  quiet : Bool
deriving Repr, DecidableEq

inductive Request where
  | help
  | run (arguments : Arguments)
deriving Repr, DecidableEq

namespace Arguments

def none : Arguments := ⟨.none, .none, .none, false, false⟩

def set (a : Arguments) (flag : Flag) (value : String) : Arguments :=
  match flag with
  | .help => a
  | .command => { a with command := some (.ofString value) }
  | .config => { a with config := some (.ofString value) }
  | .verbose => { a with verbose := true }
  | .quiet => { a with quiet := true }

end Arguments

/-- The flags that one word comes to, each with its value, and whether the last of them has its
value in the next word. -/
structure Cluster where
  flags : List (Flag × String)
  /-- A flag whose value is the next word. -/
  open? : Option Flag
deriving Repr, DecidableEq

namespace Cluster

def withValue (flag : Flag) (value : List Char) : Except UsageError Cluster :=
  let value := String.ofList value
  if flag.takesValue then .ok ⟨[(flag, value)], none⟩ else .error (.extraValue flag value)

/-- Reads a flag and what follows in the same word: its value, or the letters of more flags. -/
def ofLetters (flag : Flag) : List Char → Except UsageError Cluster
  | [] => .ok (if flag.takesValue then ⟨[], some flag⟩ else ⟨[(flag, "")], none⟩)
  | letter :: r =>
    match flag.takesValue, Flag.ofLetter? letter with
    | false, some next => (ofLetters next r).map fun c => { c with flags := (flag, "") :: c.flags }
    | _, _ => withValue flag (letter :: r)

def read (flag : Flag) (short : Bool) : Option (List Char) → Except UsageError Cluster
  | none => ofLetters flag []
  | some value =>
    if short && !value.isEmpty then ofLetters flag value else withValue flag value

end Cluster

/-- Reading a command line: the arguments so far, whether a script may still be named, and the
words left over. -/
structure Progress where
  arguments : Arguments
  scriptAllowed : Bool
  left : List String

namespace Progress

def leave (p : Progress) (text : String) : Progress := { p with left := p.left ++ [text] }

def script (p : Progress) (text : String) : Progress :=
  { p with
    arguments := { p.arguments with script := some (Files.Path.normal text) }
    scriptAllowed := false }

def flags (p : Progress) (fs : List (Flag × String)) : Option Progress :=
  if fs.any fun f => f.1 = .help then none
  else some { p with arguments := fs.foldl (fun a (f, value) => a.set f value) p.arguments }

def read (p : Progress) : List Word → Except UsageError (Option Progress)
  | [] => .ok (some p)
  | .plain text :: r =>
    if p.scriptAllowed then
      match r with
      | .separator :: r => (p.script text).read r
      | r => (p.script text).read r
    else (p.leave text).read r
  | .separator :: r =>
    if p.scriptAllowed then
      match r with
      | .plain text :: r => (p.script text).read r
      | r => { p with scriptAllowed := false : Progress }.read r
    else (p.leave "--").read r
  | .unknown text :: r => (p.leave text).read r
  | .flag flag short value :: r =>
    match Cluster.read flag short value with
    | .error e => .error e
    | .ok cluster =>
      match cluster.open?, r with
      | some last, .plain text :: r =>
        match p.flags (cluster.flags ++ [(last, text)]) with
        | none => .ok none
        | some p => p.read r
      | some last, _ => .error (.missingValue last)
      | none, r =>
        match p.flags cluster.flags with
        | none => .ok none
        | some p => p.read r

end Progress

/-- Reads a command line, as the option parser of releases before 3.11.10 and 3.12.3 does: in these,
an equals sign only parts a letter from the letters after it, and two dashes attached to a flag are
no value. -/
def parse (texts : List String) : Except UsageError Request :=
  match Word.ofTexts texts with
  | .error e => .error e
  | .ok words =>
    match (Progress.mk .none true []).read words with
    | .error e => .error e
    | .ok none => .ok .help
    | .ok (some p) =>
      if p.left.isEmpty then .ok (.run p.arguments) else .error (.unrecognized p.left)

def Arguments.hasTwoSources (a : Arguments) : Bool := a.script.isSome && a.command.isSome

end LineShell.CommandLine

import LineShell.Command.Program
import LineShell.Files.Home
import LineShell.Posix.Evaluation

namespace LineShell.Posix

open Files (Tree Fault)

/-- What the first line of a file says: the interpreter and its argument. -/
structure Header where
  interpreter : String
  argument : Option String
deriving Repr, DecidableEq

def headerSize : Nat := 256

/-- The part of a file that may hold its header, with null bytes after the end of the file. -/
def headerBuffer (content : List UInt8) : Octets :=
  let taken := Octets.ofBytes (content.take headerSize)
  taken ++ List.replicate (headerSize - taken.length) '\x00'

/-- The header of a file, if it has one. A line without an end counts up to the end of the buffer,
unless the name of the interpreter might go on there. -/
def header? (content : List UInt8) : Option Header :=
  match headerBuffer content with
  | '#' :: '!' :: r =>
    let isGap (c : Char) : Bool := c == ' ' || c == '\t'
    let isEnd (c : Char) : Bool := isGap c || c == '\x00'
    let text := r.takeWhile fun c => c ≠ '\n' && c ≠ '\x00'
    let isWhole := (r.drop text.length).head? = some '\n'
    let line := if isWhole then text else r.dropLast
    if !isWhole && !(r.dropWhile isGap).any isEnd then none
    else
      let line := ((line.reverse.dropWhile isGap).reverse).dropWhile isGap
      let name := line.takeWhile (!isEnd ·)
      if name.isEmpty then none
      else
        let rest := line.dropWhile (!isEnd ·)
        let argument := (rest.dropWhile isGap).takeWhile (· ≠ '\x00')
        let hasArgument := rest.head?.any isGap
        some ⟨Octets.toText name, if hasArgument then some (Octets.toText argument) else none⟩
  | _ => none

def maxArgument : Nat := 131071

def ownVariables (parent : Nat) : Bindings :=
  [("IFS", " \t\n"), ("OPTIND", "1"), ("PPID", toString parent)].map
    fun (n, v) => (n.toList, .plain v.toList)

def defaultVariables : Bindings :=
  [("PATH", "/usr/local/sbin:/usr/local/bin:/usr/sbin:/usr/bin:/sbin:/bin"), ("PS1", "# "),
    ("PS2", "> "), ("PS4", "+ ")].map fun (n, v) => (n.toList, .plain v.toList)

def startingVariables (process : Process) (environment : List (String × String)) :
    Bindings × Octets :=
  let inherited : Bindings := (environment.map fun (n, v) =>
    (Octets.ofText n, ⟨some (Octets.ofText v), true, false⟩)).filter fun v => Octets.isName v.1
  let add (v : Octets × Variable) (vs : Bindings) : Bindings := vs.put v.1 v.2
  let vs := (ownVariables process.parent ++ inherited ++ defaultVariables).foldr add []
  let here := process.files.here
  let directory :=
    match vs.value? "PWD".toList with
    | some name =>
      if name.head? = some '/' ∧ Directory.place? process.files name = some here then name
      else Directory.physical here
    | none => Directory.physical here
  (vs.put "PWD".toList ⟨some directory, true, false⟩, directory)

def State.initial (i : Inheritance) (settings : Settings) (name : String) (args : List String) :
    State :=
  let (bindings, directory) := startingVariables i.process i.environment
  { i.process with
    bindings := bindings
    functions := []
    aliases := []
    located := []
    settings := settings
    traps := i.ignored.map fun n => (n, [])
    name := Octets.ofText name
    args := args.map Octets.ofText
    options := .start
    directory := directory
    frame := none
    depth := 0
    loops := 0
    isInner := false
    status := 0
    captured := 0
    line := 0
    reached := 1
    within := none
    jobs := [] }

/-- Runs the interpreter of scripts with these arguments: options, then a script and its
arguments, or a command after the option for it. Without any, the script is standard input. -/
def interpret (callee : Callee) (i : Inheritance) (self : String) (args : List String) :
    Process × Int :=
  let failed (message : Octets) : Process × Int :=
    (((State.initial i [] self []).complain message).toProcess, 2)
  match Settings.read [] true (args.map Octets.ofText) with
  | .error message => failed message
  | .ok c =>
    let args := c.rest.map Octets.toText
    if c.takesCommand then
      match args with
      | [] => failed "-c requires an argument".toList
      | command :: rest =>
        runScript callee false (Octets.ofText command)
          (.initial i c.settings (rest.headD self) rest.tail)
    else
      match if c.settings.has .standardInput then [] else args with
      | [] =>
        let text := (i.process.unread? 0).getD []
        let i := { i with process := i.process.advance 0 text.length }
        runScript callee true text (.initial i (c.settings.turn true .standardInput) self args)
      | file :: args =>
        match i.process.openFile (Octets.ofText file) .input with
        | .error fault =>
          failed ("cannot open ".toList ++ Octets.ofText file ++ ": ".toList ++
            refusal false fault)
        | .ok (p, n) =>
          runScript callee true ((p.channels[n]?.bind p.rest?).getD [])
            (.initial i c.settings file args)

/-- Starts a program. A header's interpreter is started in the program's place, at most `links`
times. -/
def start (callee : Callee) (i : Inheritance) :
    (links : Nat) → (path : String) → (argv : List String) → Except Fault (Process × Int)
  | links, path, argv =>
    match i.process.files.locate .look path with
    | .error fault => .error fault
    | .ok (.vacant _) => .error .noEntry
    | .ok (.node _ .interpreter) => .ok (interpret callee i (argv.headD path) argv.tail)
    | .ok (.node _ (.file mode content)) =>
      if mode &&& 0o111 = 0 then .error .accessDenied
      else match header? content with
        | none => .error .notExecutable
        | some h =>
          match links with
          | 0 => .error .tooManyLinks
          | n + 1 =>
            start callee i n h.interpreter
              (h.interpreter :: h.argument.toList ++ path :: argv.tail)
    | .ok (.node _ _) => .error .accessDenied

def maxHeaders : Nat := 5

/-- The programs of a machine on which every program is a script, where programs may start programs
up to the given depth. -/
def callee : (depth : Nat) → Callee
  | 0, _, _ => .error .inputOutput
  | n + 1, i, argv =>
    match argv with
    | [] => .error .noEntry
    | path :: _ =>
      if argv.any fun a => a.utf8ByteSize > maxArgument then .error .argumentsTooLong
      else
        let p := i.process
        let child := { p with number := p.number + 100, parent := p.number }
        start (callee n) { i with process := child } maxHeaders path argv

def maxDepth : Nat := 50

/-- The process that the shell itself is, with nothing to read and two pipes for what its programs
write. -/
def shellProcess (files : Tree) (accounts : List (String × String)) : Process where
  files := files
  accounts := accounts
  channels := #[.null, .pipe [] none, .pipe [] none]
  descriptors := [(0, 0), (1, 1), (2, 2)]
  mask := 0o022
  number := 4142
  parent := 1
  isBroken := false

def programs (depth : Nat) (environment : Files.Environment) : Command.Programs :=
  fun files argv =>
    let shell := shellProcess files environment.accounts
    match callee depth ⟨shell, environment.values, []⟩ argv with
    | .error fault => .refused fault
    | .ok (p, status) =>
      .ended status (Octets.toBytes (p.pipeText 1)) (Octets.toBytes (p.pipeText 2))
        { p.files with here := files.here }

end LineShell.Posix

import LineShell.Posix.Directory
import LineShell.Posix.Expansion
import LineShell.Posix.Field
import LineShell.Posix.Letters
import LineShell.Posix.Lookup
import LineShell.Posix.Mask
import LineShell.Posix.Printf
import LineShell.Posix.Signal

namespace LineShell.Posix.Builtin

def finish (status : Nat) : Action Flow := do
  modify fun st => st.withStatus status
  return .next

/-- Ends a builtin with what it prints; a failure to print is a failure of the builtin. -/
def print (text : Octets) (status : Nat) : Action Flow := do
  let st ← get
  match st.write 1 text with
  | (st, true) =>
    set st
    finish status
  | (st, false) =>
    set (st.complain ((st.within.getD []) ++ ": I/O error".toList))
    finish (status ||| 1)

def largest : Nat := 0x7fffffff

def number (s : Octets) : Action Nat :=
  match Octets.intOfDecimal? s with
  | some (.ofNat n) => if n ≤ largest then return n else throw ("Illegal number: ".toList ++ s)
  | _ => throw ("Illegal number: ".toList ++ s)

def firstNumber (args : List Octets) (default : Nat) : Action Nat :=
  match args with
  | [] => return default
  | a :: _ => number a

def options (allowed : String) (args : List Octets) : Action Letters.Given :=
  match Letters.given allowed args with
  | .ok g => return g
  | .error message => throw message

def printf (args : List Octets) : Action Flow := do
  let g ← options "" args
  match g.rest with
  | [] => throw "usage: printf format [arg ...]".toList
  | format :: args =>
    let r := Printf.print format args
    modify fun st => r.complaints.foldl State.complain st
    let status := if r.complaints.isEmpty then 0 else 1
    match r.mistake with
    | some message =>
      modify fun st => st.complain message
      let _ ← print r.output 2
      finish 2
    | none => print r.output status

def echo (args : List Octets) : Action Flow := do
  let (newline, args) :=
    if args.head? = some "-n".toList then (false, args.tail) else (true, args)
  let text := [' '].intercalate args
  let (out, on) := Printf.unescape (text.length + 1) text
  print (out ++ if newline && on then ['\n'] else []) 0

def test (inBrackets : Bool) (args : List Octets) : Action Flow := do
  if inBrackets ∧ (args.getLast?.bind (·.head?)) ≠ some ']' then throw "missing ]".toList
  match Condition.truth (← get).files (if inBrackets then args.dropLast else args) with
  | .ok b => finish (if b then 0 else 1)
  | .error message => throw message

def read (args : List Octets) : Action Flow := do
  let g ← options "p:r" args
  if g.rest.isEmpty then throw "arg count".toList
  let st ← get
  let line := Field.line (g.has 'r') ((st.unread? 0).getD [])
  set { st with toProcess := st.advance 0 line.count }
  for (name, value) in g.rest.zip (Field.read st.separators g.rest.length line.glyphs) do
    State.setVariable name value
  finish (if line.isEnded then 0 else 1)

def shift (args : List Octets) : Action Flow := do
  let n ← firstNumber args 1
  let st ← get
  if n > st.args.length then throw "can't shift that many".toList
  set { st with args := st.args.drop n, options := .start }
  finish 0

def listing (word : Octets) (vs : Bindings) : Octets :=
  (vs.map fun (name, v) =>
    word ++ name ++ (v.value.map fun value => '=' :: Octets.quoted value).getD [] ++ ['\n']).flatten

def setSettings (args : List Octets) : Action Flow := do
  let st ← get
  if args.isEmpty then print (listing [] (st.bindings.listed fun v => v.value.isSome)) 0
  else
    match st.settings.read false args with
    | .error message => throw message
    | .ok c =>
      let st := { st with settings := c.settings }
      set <| if c.settings.has .monitor && !st.isInner then
          { st with settings := c.settings.turn false .monitor }.complain
            "can't access tty; job control turned off".toList
        else st
      if c.replaces || !c.rest.isEmpty then
        modify fun st => { st with args := c.rest, options := .start }
      print c.listing 0

def declare (mark : Variable → Variable) : List Octets → Action Unit
  | [] => return
  | a :: rest => do
    let name := a.takeWhile (· ≠ '=')
    if !Octets.isName name then throw (name ++ ": bad variable name".toList)
    if a.contains '=' then State.setVariable name ((a.dropWhile (· ≠ '=')).drop 1)
    modify fun st =>
      let v := (st.bindings.lookup name).getD ⟨none, false, false⟩
      { st with bindings := st.bindings.put name (mark v) }
    declare mark rest

def marking (word : String) (mark : Variable → Variable) (isMarked : Variable → Bool)
    (args : List Octets) : Action Flow := do
  let g ← options "p" args
  if g.rest.isEmpty || g.has 'p' then
    print (listing (word.toList ++ [' ']) ((← get).bindings.listed isMarked)) 0
  else
    declare mark g.rest
    finish 0

def ownVariables : List Octets → Action Flow
  | [] => finish 0
  | a :: rest => do
    let st ← get
    match st.frame with
    | none => throw "not in a function".toList
    | some frame =>
      if a = ['-'] then
        set { st with frame := some { frame with settings := frame.settings.or st.settings } }
      else
        let name := a.takeWhile (· ≠ '=')
        let own := (name, st.bindings.lookup name) :: frame.own
        set { st with frame := some { frame with own := own } }
        if a.contains '=' then State.setAnyVariable name ((a.dropWhile (· ≠ '=')).drop 1)
        else declare id [a]
      ownVariables rest

def unset (args : List Octets) : Action Flow := do
  let g ← options "vf" args
  if g.options.getLast?.any (·.1 == 'f') then
    modify fun st => { st with functions := st.functions.filter fun f => !g.rest.contains f.1 }
  else
    for name in g.rest do
      let st ← get
      if !Octets.isName name then throw (name ++ ": bad variable name".toList)
      match st.bindings.unset name with
      | .ok bindings => set { st with bindings := bindings }
      | .error message => throw message
  finish 0

def changeDirectory (args : List Octets) : Action Flow := do
  let g ← options "LP" args
  let st ← get
  let isPhysical := g.options.getLast?.any (·.1 == 'P')
  let (target, isShown) :=
    match g.rest with
    | [] => ((st.get? "HOME".toList).getD [], false)
    | ['-'] :: _ => ((st.get? "OLDPWD".toList).getD [], true)
    | path :: _ => (path, false)
  let path := if target.isEmpty then ['.'] else target
  let entered := (Directory.candidates st path).findSome? fun (p, isFound) =>
    (Directory.enter? st isPhysical p).map fun st => (st, isFound)
  match entered with
  | none => throw ("can't cd to ".toList ++ path)
  | some (st, isFound) =>
    set st
    print (if isShown || isFound then st.directory ++ ['\n'] else []) 0

def workingDirectory (args : List Octets) : Action Flow := do
  let g ← options "LP" args
  let st ← get
  let isPhysical := g.options.getLast?.any (·.1 == 'P')
  print ((if isPhysical then Directory.physical st.files.here else st.directory) ++ ['\n']) 0

def umask (args : List Octets) : Action Flow := do
  let g ← options "S" args
  let mask := (← get).mask
  match g.rest with
  | [] => print ((if g.has 'S' then Mask.letters mask else Mask.octal mask) ++ ['\n']) 0
  | text :: _ =>
    match Mask.read mask text with
    | .ok mask =>
      modify fun st => { st with mask := mask }
      finish 0
    | .error message => throw message

def setTraps (action : Option Octets) : List Octets → Action Flow
  | [] => finish 0
  | s :: rest => do
    match Signal.number? 0 s with
    | none =>
      modify fun st => st.warn ("trap: ".toList ++ s ++ ": bad trap\n".toList)
      finish 1
    | some n =>
      modify fun st =>
        let others := st.traps.filter fun t => t.1 ≠ n
        { st with traps := (action.map fun a => (n, a)).toList ++ others }
      setTraps action rest

def trap (args : List Octets) : Action Flow := do
  match (← options "" args).rest with
  | [] =>
    let line (n : Nat) : Action Octets := do
      return (((← get).traps.lookup n).map fun action =>
        "trap -- ".toList ++ Octets.quoted action ++ ' ' :: Signal.name n ++ ['\n']).getD []
    print (← (List.range Signal.count).mapM line).flatten 0
  | action :: signals =>
    if signals.isEmpty ∨ (Octets.natOfDigits? 10 action).any (· < Signal.count) then
      setTraps none (action :: signals)
    else setTraps (if action = ['-'] then none else some action) signals

def setAliases : List Octets → (printed : Octets) → (status : Nat) → Action Flow
  | [], printed, status => print printed status
  | a :: rest, printed, status => do
    let st ← get
    let name := a.take 1 ++ (a.drop 1).takeWhile (· ≠ '=')
    match a.drop name.length with
    | _ :: text =>
      let aliases :=
        if (st.aliases.lookup name).isSome then
          st.aliases.map fun e => if e.1 = name then (name, text) else e
        else st.aliases ++ [(name, text)]
      set { st with aliases := aliases }
      setAliases rest printed status
    | [] =>
      match st.aliases.lookup name with
      | some text => setAliases rest (printed ++ Meaning.definition name text) status
      | none =>
        set (st.warn ("alias: ".toList ++ name ++ " not found\n".toList))
        setAliases rest printed 1

def aliases (args : List Octets) : Action Flow := do
  if args.isEmpty then
    print ((listingOrder 39 (← get).aliases).map fun (n, t) => Meaning.definition n t).flatten 0
  else setAliases args [] 0

def unalias (args : List Octets) : Action Flow := do
  let g ← options "a" args
  if g.has 'a' then
    modify fun st => { st with aliases := [] }
    finish 0
  else
    let known := (← get).aliases
    let unknown := g.rest.filter fun name => (known.lookup name).isNone
    modify fun st =>
      unknown.foldl (fun st name => st.warn ("unalias: ".toList ++ name ++ " not found\n".toList))
        { st with aliases := known.filter fun e => !g.rest.contains e.1 }
    finish (if unknown.isEmpty then 0 else 1)

def type (args : List Octets) : Action Flow := do
  let meanings ← args.mapM fun name => do
    return (name, ← modifyGet fun st => (st.meaning name).swap)
  print (meanings.map fun (name, m) => Meaning.sentence name m).flatten
    (if meanings.all (·.2.isSome) then 0 else 127)

def hash (args : List Octets) : Action Flow := do
  let g ← options "rv" args
  if g.has 'r' then
    modify fun st => { st with located := [] }
    finish 0
  else if g.rest.isEmpty then
    print ((listingOrder 31 (← get).located).map fun (_, l) =>
      l.path ++ if l.isStale then ['*', '\n'] else ['\n']).flatten 0
  else
    let mut status := 0
    for name in g.rest do
      modify fun st => st.forget name
      let st ← get
      if (st.functions.lookup name).isNone && !isBuiltin name then
        match st.program? name with
        | some path => set (st.remember name path)
        | none =>
          set (st.complain (name ++ ": not found".toList))
          status := 1
    finish status

def getopts (args : List Octets) : Action Flow := do
  match (← options "" args).rest with
  | allowed :: name :: given =>
    let st ← get
    let s := st.options.step allowed (if given.isEmpty then st.args else given)
    match s.argument with
    | some (some value) => State.setVariable "OPTARG".toList value
    | some none =>
      modify fun st => { st with bindings := st.bindings.remove "OPTARG".toList }
    | none => pure ()
    modify fun st =>
      match s.complaint with
      | some message => st.warn (message ++ ['\n'])
      | none => st
    State.setVariable "OPTIND".toList (Octets.ofNat s.scan.next)
    modify fun st => { st with options := s.scan }
    State.setVariable name [s.letter]
    finish (if s.isDone then 1 else 0)
  | _ => throw "Usage: getopts optstring var [arg...]".toList

def wait (args : List Octets) : Action Flow := do
  match (← options "" args).rest with
  | [] => finish 0
  | processes =>
    let mut status := 127
    for p in processes do
      let jobs := (← get).jobs
      match p with
      | ['%'] | ['%', '%'] | ['%', '+'] =>
        match jobs.head? with
        | some (_, s) => status := s
        | none => throw "No current job".toList
      | '%' :: n =>
        match (Octets.natOfDigits? 10 n).bind fun n => jobs.reverse[n - 1]? with
        | some (_, s) => status := s
        | none => throw ("No such job: ".toList ++ p)
      | p =>
        status := (jobs.lookup (← number p)).getD 127
    finish status

def perform (name : String) (args : List Octets) : Action Flow := do
  match name with
  | "printf" => printf args
  | "echo" => echo args
  | "test" => test false args
  | "[" => test true args
  | "read" => read args
  | "exit" => return .exit ((← firstNumber args (← get).status) % 256)
  | "return" => return .back ((← firstNumber args (← get).status) % 256)
  | "break" | "continue" =>
    let n ← firstNumber args 1
    if n = 0 then throw ("Illegal number: ".toList ++ args.headD [])
    let loops := (← get).loops
    let _ ← finish 0
    if loops = 0 then return .next
    return if name = "break" then .leave (min n loops) else .again (min n loops)
  | "shift" => shift args
  | "set" => setSettings args
  | "export" => marking name (fun v => { v with exported := true }) (·.exported) args
  | "readonly" => marking name (fun v => { v with settled := true }) (·.settled) args
  | "local" =>
    if (← get).frame.isNone then throw "not in a function".toList
    ownVariables args
  | "unset" => unset args
  | "cd" | "chdir" => changeDirectory args
  | "pwd" => workingDirectory args
  | "umask" => umask args
  | "trap" => trap args
  | "alias" => aliases args
  | "unalias" => unalias args
  | "type" => type args
  | "hash" => hash args
  | "getopts" => getopts args
  | "wait" => wait args
  | "fg" | "bg" => throw "No current job".toList
  | "ulimit" => print "unlimited\n".toList 0
  | "times" => print "0m0.000000s 0m0.000000s\n0m0.000000s 0m0.000000s\n".toList 0
  | "false" => finish 1
  | _ => finish 0

end LineShell.Posix.Builtin

import LineShell.Posix.Builtin
import LineShell.Posix.Reader

namespace LineShell.Posix

open Files (Fault)

structure Inheritance where
  process : Process
  environment : List (String × String)
  /-- The signals that do nothing. -/
  ignored : List Nat

/-- How the programs behave that a script starts: the process after it and its status, which is
negative for a signal, or why it cannot be started. -/
abbrev Callee := Inheritance → List String → Except Fault (Process × Int)

/-- Runs a command. In a tested one, a failure is no reason to end the script. -/
abbrev Runner := (tested : Bool) → Cmd → State → State × Flow

namespace State

/-- Runs the commands of a script. With `isFile`, the script is shown while it is read if that is
asked for; `ran` says that a command has been run. -/
def runSource (run : Runner) (tested isFile : Bool) :
    (budget : Nat) → (ran : Bool) → Source → State → State × Flow
  | 0, _, _, st => (st, .died 11)
  | n + 1, ran, source, st =>
    let display (st : State) (left : Nat) : State :=
      if isFile && st.has .shows then st.warn (source.text.take (source.text.length - left))
      else st
    match Reader.read st.aliases source with
    | .finished => ((display st 0).withStatus (if ran then st.status else 0), .next)
    | .mistake m =>
      let read := source.text.length - m.unread
      let restOfLine : Nat :=
        if (source.text.take read).getLast?.all (· == '\n') then 0
        else ((source.text.drop read).takeWhile (· ≠ '\n')).length + 1
      let left := m.unread - restOfLine
      let st := { display st left with line := m.line }.complain
        ("Syntax error: ".toList ++ m.message.toList)
      (st.withStatus 2, .failed 2)
    | .command c rest =>
      let st := { display st rest.text.length with reached := rest.line }
      match c with
      | none => runSource run tested isFile n ran rest st
      | some c =>
        match run tested c st with
        | (st, .next) => runSource run tested isFile n true rest st
        | r => r

def runText (run : Runner) (tested isFile : Bool) (text : Octets) (st : State) : State × Flow :=
  runSource run tested isFile (text.length + 100000) false (.ofText text) st

def settle (st : State) : Flow → State
  | .exit n | .failed n | .replaced n | .back n => st.withStatus n
  | .killed n | .died n => st.withStatus (128 + n)
  | _ => st

def conclude (run : Runner) (st : State) (flow : Flow) : State × Flow :=
  match flow, st.traps.lookup 0 with
  | .killed _, _ | .died _, _ | .replaced _, _ | _, none => (st, flow)
  | flow, some action =>
    let st := st.settle flow
    let begun := { st with traps := st.traps.filter fun t => t.1 ≠ 0 }
    match runText run false false action begun with
    | (st', .next) => (st'.withStatus st.status, .exit st.status)
    | r => r

def inner (st : State) : State :=
  { st with traps := st.traps.filter fun t => t.2.isEmpty, isInner := true }

def after (st inside : State) : State :=
  { st with toProcess := st.resume inside.toProcess, status := inside.status }

def noteSignal (st : State) (signal : Nat) : State :=
  match Signal.descriptions.lookup signal with
  | some text => st.warn (text.toList ++ ['\n'])
  | none => st

def noteEnd (st : State) : Flow → State
  | .died signal => st.noteSignal signal
  | _ => st

def capture (run : Runner) : Capture := fun body st =>
  match body with
  | none => (st, [])
  | some c =>
    let (p, n) := st.piped none
    let (inside, flow) := run false c { st.inner with toProcess := p }
    let (inside, flow) := inside.conclude run flow
    let inside := inside.settle flow
    ({ (st.after inside).noteEnd flow with status := st.status, captured := inside.status },
      (inside.pipeText n).filter (· ≠ '\x00'))

def interpreterPath : String := "/bin/sh"

def isScript (files : Files.Tree) (path : String) : Bool :=
  match files.read path with
  | .ok bytes => !bytes.contains 0
  | .error _ => false

def inheritance (st : State) : Inheritance where
  process := st.toProcess
  environment := st.bindings.environment.map fun (n, v) => (Octets.toText n, Octets.toText v)
  ignored := (st.traps.filter fun t => t.2.isEmpty).map (·.1)

/-- Runs a program to its end. A file that the system does not take for a program is run as a
script. -/
def call (st : State) (callee : Callee) (argv : List Octets) : State :=
  match argv with
  | [] => st
  | name :: args =>
    let refuse (message : Octets) (status : Nat) : State :=
      (st.complain (name ++ ": ".toList ++ message)).withStatus status
    match st.program? name with
    | none =>
      let isThere := (st.candidates name).any st.files.has
      (refuse (if isThere then Octets.ofText Fault.accessDenied.text else "not found".toList)
        127).forget name
    | some path =>
      let st := st.remember name path
      let argv := path :: args.map Octets.toText
      let outcome :=
        match callee st.inheritance argv with
        | .error .notExecutable =>
          if isScript st.files path then callee st.inheritance (interpreterPath :: argv)
          else .error .notExecutable
        | outcome => outcome
      match outcome with
      | .error fault =>
        let isMissing := fault = .noEntry ∨ fault = .notDirectory
        refuse (if isMissing then "not found".toList else Octets.ofText fault.text)
          (if isMissing ∨ fault = .tooManyLinks ∨ fault = .nameTooLong then 127 else 126)
      | .ok (p, status) =>
        let st := { st with toProcess := st.resume p }
        if status < 0 then
          (st.noteSignal status.natAbs).withStatus (128 + status.natAbs)
        else st.withStatus status.toNat

abbrev Aimed := Redirect Word × Octets

def expandTargets (run : Runner) (xs : List (Redirect Word)) : Action (List Aimed) :=
  xs.mapM fun x => do
    match x.op with
    | .document _ => return (x, [])
    | .duplicate =>
      let target ← expandOne (capture run) x.target
      if target = ['-'] ∨ (target.length = 1 ∧ target.all Char.isDigit) then return (x, target)
      else
        modify fun st => { st with line := st.reached }
        throw "Syntax error: Bad fd number".toList
    | _ => return (x, ← expandOne (capture run) x.target)

def redirect (run : Runner) (xs : List Aimed) : Action Unit :=
  xs.forM fun (x, target) => do
    let st ← get
    let file (opening : Opening) : Action Unit := do
      match st.openFile target opening with
      | .ok (p, n) => set { st with toProcess := p.connect x.descriptor n }
      | .error fault =>
        let creating := opening ≠ .input
        throw ((if creating then "cannot create " else "cannot open ").toList ++ target ++
          ": ".toList ++ refusal creating fault)
    match x.op with
    | .input => file .input
    | .output => file (if st.has .keepsFiles then .fresh else .output)
    | .replace => file .output
    | .append => file .append
    | .inOut => file .inOut
    | .document _ =>
      let text ← expandDocument (capture run) x.target
      modify fun st => { st with toProcess := st.connectNew x.descriptor (.text text) }
    | .duplicate =>
      if target = ['-'] then set { st with toProcess := st.close x.descriptor }
      else
        let source := (Octets.natOfDigits? 10 target).getD 0
        if source ≠ x.descriptor then
          match st.descriptors.lookup source with
          | some n => set { st with toProcess := st.connect x.descriptor n }
          | none =>
            set { st with toProcess := st.close x.descriptor }
            throw (target ++ ": Bad file descriptor".toList)

/-- Gives the descriptors of redirections back what they stood for in an earlier state. -/
def restore (st old : State) (xs : List Aimed) : State :=
  { st with toProcess := st.reconnect old.toProcess (xs.map (·.1.descriptor)) }

def abandon (st : State) (message : Octets) : State × Flow :=
  ((st.complain message).withStatus 2, .failed 2)

structure Assigned where
  name : Octets
  value : Octets
  /-- The variable before it. -/
  old : Option Variable

/-- Assigns values to variables. With `exporting`, programs inherit them. -/
def assignAll (run : Runner) (exporting : Bool) (as : List (Octets × Word)) :
    Action (List Assigned) :=
  as.mapM fun (name, value) => do
    let text ← expandValue (capture run) value
    let old := (← get).bindings.lookup name
    setVariable name text
    if exporting then
      modify fun st =>
        let v := (st.bindings.lookup name).getD (.plain text)
        { st with bindings := st.bindings.put name { v with exported := true } }
    return ⟨name, text, old⟩

/-- Shows a command on the standard error of an earlier state, if that is asked for. -/
def trace (run : Runner) (words : List Octets) (old : State) : Action Unit := do
  let st ← get
  if st.has .traces then
    let mark := (st.get? "PS4".toList).getD []
    let mark ← match Reader.word? mark with
      | some w => expandDocument (capture run) w
      | none => pure mark
    let st ← get
    let shown := { st with descriptors := old.descriptors }.warn
      (mark ++ [' '].intercalate words ++ ['\n'])
    set { shown with descriptors := st.descriptors }

def unassign (a : Assigned) (st : State) : State :=
  let st := { st with bindings := st.bindings.restore a.name a.old }
  match a.old.bind (·.value) with
  | some value => (st.noticed a.name value).toOption.getD st
  | none => st

def maxNesting : Nat := 1000

def apply (run : Runner) (tested : Bool) (body : Cmd) (args : List Octets) (st : State) :
    State × Flow :=
  if st.depth ≥ maxNesting then
    st.abandon "Maximum function recursion depth (1000) reached".toList
  else
    let (done, flow) := run tested body
      { st with
        args := args, frame := some ⟨[], none⟩, depth := st.depth + 1, loops := 0
        options := .start }
    let frame := done.frame.getD ⟨[], none⟩
    let st := { done with
      bindings := frame.own.foldl (fun vs (name, v) => vs.restore name v) done.bindings
      settings := frame.settings.getD done.settings
      args := st.args, frame := st.frame, depth := st.depth, loops := st.loops
      options := st.options }
    match flow, frame.unnamed? with
    | .back _, some name | .next, some name =>
      st.abandon (name ++ ": bad variable name".toList)
    | .back n, none => (st.withStatus n, .next)
    | flow, _ => (st, flow)

def send (run : Runner) (n : Nat) (st : State) : State × Flow :=
  match if n = 0 then none else st.traps.lookup n with
  | some action =>
    match runText run false false action { st with within := none } with
    | (st', .next) => ({ st' with within := st.within }.withStatus 0, .next)
    | r => r
  | none => (st.withStatus 0, if Signal.harmless.contains n then .next else .killed n)

def killUsage : Octets :=
  ("Usage: kill [-s sigspec | -signum | -sigspec] [pid | job]... or\n" ++
    "kill -l [exitstatus]").toList

def sendAll (run : Runner) (n : Nat) : List Octets → (status : Nat) → Action Flow
  | [], status => Builtin.finish status
  | p :: rest, status => do
    let number ← Builtin.number (if p.head? = some '-' then p.tail else p)
    let st ← get
    if p.head? ≠ some '-' ∧ number = st.number then
      let (st, flow) := st.send run n
      set st
      if flow = .next then sendAll run n rest status else return flow
    else
      set (st.complain "No such process\n".toList)
      sendAll run n rest 1

def kill (run : Runner) (args : List Octets) : Action Flow := do
  match args with
  | [] => throw killUsage
  | first :: rest =>
    let send (n : Nat) (processes : List Octets) : Action Flow :=
      if processes.isEmpty then throw killUsage else sendAll run n processes 0
    match first with
    | '-' :: sought =>
      match Signal.number? 1 sought with
      | some n => send n rest
      | none =>
        let g ← Builtin.options "ls:" args
        let mut chosen : Option Nat := none
        for (_, sought) in g.options.filter (·.1 == 's') do
          chosen := Signal.number? 1 sought
          if chosen.isNone then throw ("invalid signal number or name: ".toList ++ sought)
        match chosen with
        | some n => if g.has 'l' then throw killUsage else send n g.rest
        | none =>
          if !g.has 'l' then send 15 g.rest
          else match g.rest with
            | [] => Builtin.print Signal.listing 0
            | a :: _ =>
              let n ← Builtin.number a
              let n := if n > 128 then n - 128 else n
              if 0 < n ∧ n < Signal.count then Builtin.print (Signal.name n ++ ['\n']) 0
              else throw ("invalid signal number or exit status: ".toList ++ a)
    | _ => send 15 args

/-- Runs the commands of a text in the place of a builtin, as part of what is named. Texts that
never cease to be nested end the script as the system would. -/
def evaluate (run : Runner) (tested isFile : Bool) (within : Octets) (text : Octets) :
    Action Flow := do
  let outer ← get
  if outer.depth ≥ maxNesting then return .died 11
  let (st, flow) := runText run tested isFile text
    { outer with within := some within, depth := outer.depth + 1 }
  set { st with depth := outer.depth, reached := outer.reached }
  return flow

def source (run : Runner) (args : List Octets) : Action Flow := do
  match (← Builtin.options "" args).rest with
  | [] => Builtin.finish 0
  | file :: _ =>
    let st ← get
    let isFile (path : String) : Bool :=
      match st.files.locate .look path with
      | .ok (.node _ .directory) => false
      | .ok (.node _ _) => true
      | _ => false
    match if file.contains '/' then some (Octets.toText file)
      else (st.candidates file).find? isFile with
    | none => throw (file ++ ": not found".toList)
    | some path =>
      match st.openFile (Octets.ofText path) .input with
      | .error fault =>
        throw ("cannot open ".toList ++ Octets.ofText path ++ ": ".toList ++ refusal false fault)
      | .ok (p, n) =>
        let text := ((p.channels[n]?).bind p.rest?).getD []
        match ← evaluate run false true (Octets.ofText path) text with
        | .back n => Builtin.finish n
        | flow => return flow

def perform (run : Runner) (tested isSpecial : Bool) (name : Octets) (args : List Octets)
    (st : State) : State × Flow :=
  let act : Action Flow :=
    match String.ofList name with
    | "eval" => evaluate run tested false name ([' '].intercalate args)
    | "." => source run args
    | "kill" => kill run args
    | name => Builtin.perform name args
  match act.run.run { st with within := some name } with
  | (.ok flow, done) =>
    let done := { done with within := st.within }
    match flow with
    | .failed n => if isSpecial then (done, flow) else (done.withStatus n, .next)
    | flow => (done, flow)
  | (.error message, done) =>
    let (done, flow) := done.abandon message
    ({ done with within := st.within }, if isSpecial then flow else .next)

/-- What follows the word `command`, unless it is asked to describe a name: the command to be
carried out. -/
def plainCommand? : List Octets → Option (List Octets)
  | [] => none
  | ['-', '-'] :: rest => if rest.isEmpty then none else some rest
  | a :: rest =>
    match a with
    | '-' :: c :: letters =>
      if (c :: letters).all (· == 'p') then plainCommand? rest else none
    | _ => some (a :: rest)

def describe (args : List Octets) : Action Flow := do
  let g ← Builtin.options "pvV" args
  match g.rest with
  | name :: _ =>
    let meaning ← modifyGet fun st => (st.meaning name).swap
    let status := if meaning.isSome then 0 else 127
    if g.has 'V' then Builtin.print (Meaning.sentence name meaning) status
    else if g.has 'v' then Builtin.print (Meaning.brief name meaning) status
    else Builtin.finish 0
  | [] => Builtin.finish 0

/-- Carries out a command of one or several words; `isPlain` leaves functions out, and with them
that a failure ends the script. -/
def dispatch (callee : Callee) (run : Runner) (tested : Bool) :
    (isPlain : Bool) → (argv : List Octets) → State → State × Flow
  | isPlain, argv, st =>
    match argv with
    | [] => (st.withStatus 0, .next)
    | name :: args =>
      match if isPlain then none else st.functions.lookup name with
      | some body => st.apply run tested body args
      | none =>
        if name = "command".toList then
          match (describe args).run.run { st with within := some name } with
          | (.ok flow, done) => ({ done with within := st.within }, flow)
          | (.error message, done) =>
            ({ (done.complain message).withStatus 2 with within := st.within }, .next)
        else if name = "exec".toList then
          if args.isEmpty then (st.withStatus 0, .next)
          else
            let done := { st with within := some name }.call callee args
            let flow := if done.status = 126 ∨ done.status = 127 then Flow.exit done.status
              else .replaced done.status
            ({ done with within := st.within }, flow)
        else if isBuiltin name then st.perform run tested (!isPlain && isSpecial name) name args
        else (st.call callee argv, .next)

def stripped (argv : List Octets) : Bool × List Octets :=
  go argv.length false argv
where
  go : (budget : Nat) → Bool → List Octets → Bool × List Octets
    | 0, isPlain, argv => (isPlain, argv)
    | n + 1, isPlain, argv =>
      match argv with
      | name :: args =>
        if name = "command".toList then
          match plainCommand? args with
          | some argv => go n true argv
          | none => (isPlain, argv)
        else (isPlain, argv)
      | [] => (isPlain, [])

def declaring : List String := ["alias", "export", "local", "readonly"]

/-- The arguments of a command. Assignments as arguments of a builtin that takes them are not
split. -/
def arguments (run : Runner) : List Word → (sofar : List Octets) → Action (List Octets)
  | [], sofar => return sofar
  | w :: ws, sofar => do
    let st ← get
    let takesAssignments :=
      match (stripped sofar).2 with
      | name :: _ =>
        declaring.contains (String.ofList name) && (st.functions.lookup name).isNone
      | [] => false
    match if takesAssignments then w.assignment? else none with
    | some (name, value) =>
      let text ← expandValue (capture run) value
      arguments run ws (sofar ++ [name ++ '=' :: text])
    | none => arguments run ws (sofar ++ (← expand (capture run) w))

def simple (callee : Callee) (run : Runner) (tested : Bool) (line : Nat)
    (assignments : List (Octets × Word)) (words : List Word) (redirects : List (Redirect Word))
    (st : State) : State × Flow :=
  let prepare : Action (List Octets × List Aimed) := do
    let argv ← arguments run words []
    return (argv, ← expandTargets run redirects)
  match prepare.run.run { st with line := line, captured := 0 } with
  | (.error message, st) => st.abandon message
  | (.ok (argv, targets), st) =>
    let (isPlain, command) := stripped argv
    let name := command.headD []
    let isFunction := !isPlain && (st.functions.lookup name).isSome
    let endsScript := isSpecial name && !isPlain
    match (redirect run targets).run.run st with
    | (.error message, failed) =>
      let failed := ((failed.complain message).restore st targets).withStatus 2
      (failed, if endsScript then .failed 2 else .next)
    | (.ok (), ready) =>
      let isLocal := !argv.isEmpty && !endsScript
      let exporting := isLocal || (name = "exec".toList && command.length > 1)
      let begin : Action (List Assigned) := do
        let assigned ← assignAll run exporting assignments
        if !(assigned.isEmpty && argv.isEmpty && redirects.isEmpty) then
          trace run (assigned.map (fun a => a.name ++ '=' :: a.value) ++ argv) st
        return assigned
      match begin.run.run ready with
      | (.error message, failed) =>
        let (failed, flow) := failed.abandon message
        (failed.restore st targets, flow)
      | (.ok assigned, ready) =>
        if argv.isEmpty then ((ready.restore st targets).withStatus ready.captured, .next)
        else
          let (done, flow) := dispatch callee run tested (isPlain && !isFunction) command ready
          let keeps := name = "exec".toList && !isFunction && !(flow matches .exit _)
          let done := if keeps then done else done.restore st targets
          (if isLocal then assigned.foldr unassign done else done, flow)

/-- The body of the first branch with a pattern that a text matches, if there is such a branch. -/
def branchFor (run : Runner) (subject : Octets) :
    List (List Word × Option Cmd) → Action (Option Cmd)
  | [] => return none
  | (patterns, body) :: rest => do
    let matching ← patterns.anyM fun w => do
      return (← expandGlyphs (capture run) w).accepts subject
    if matching then return body else branchFor run subject rest

/-- What a loop makes of how its body went: whether it goes on, or how control does. -/
def loopFlow : Flow → Option Flow
  | .next => none
  | .leave n => some (if n ≤ 1 then .next else .leave (n - 1))
  | .again n => if n ≤ 1 then none else some (.again (n - 1))
  | flow => some flow

def check (tested : Bool) : State × Flow → State × Flow
  | (st, .next) =>
    if st.has .stopsOnFailure && !tested && st.status ≠ 0 then (st, .exit st.status)
    else (st, .next)
  | (st, .back n) =>
    if st.has .stopsOnFailure && !tested && n ≠ 0 then (st, .exit n) else (st, .back n)
  | r => r

/-- Runs two commands of which the second reads what the first writes. The pipe between them takes
no more than `room`; if that is too little for what the second reads, they are run with more. -/
def runJoined (run : Runner) (tested : Bool) (a b : Cmd) :
    (tries room : Nat) → State → State × Flow
  | 0, _, st => (st, .died 11)
  | tries + 1, room, st =>
    let (p, k) := st.piped (some room)
    let (left, stopped) := run tested a { st.inner with toProcess := p }
    let (left, stopped) := left.conclude run stopped
    let between := (st.after left).inner
    let (p, m) := between.addChannel (.text (left.pipeText k))
    let (right, flow) := run tested b
      { between with toProcess := p.connect 0 m, status := st.status }
    let (right, flow) := right.conclude run flow
    if left.isFull k ∧ right.channels[m]? = some (.text []) then
      runJoined run tested a b tries (room * 16) st
    else
      let out := st.after right
      match stopped, flow with
      | .killed k, _ | _, .killed k => (out, .killed k)
      | _, flow =>
        (((out.noteEnd stopped).noteEnd flow).withStatus (right.settle flow).status, .next)

def nextJob (st : State) : Nat := st.number + 1 + st.jobs.length

mutual

def eval (callee : Callee) : (budget : Nat) → Runner
  | 0, _, _, st => (st, .died 11)
  | n + 1, tested, c, st =>
    if st.isBroken then (st, .died 13)
    else if st.has .onlyReads then (st, .next)
    else match c with
    | .simple line assignments words redirects =>
      check tested (st.simple callee (eval callee n) tested line assignments words redirects)
    | .seq a b =>
      match eval callee n tested a st with
      | (st, .next) => eval callee n tested b st
      | r => r
    | .both a b =>
      match eval callee n true a st with
      | (st, .next) => if st.status = 0 then eval callee n tested b st else (st, .next)
      | r => r
    | .either a b =>
      match eval callee n true a st with
      | (st, .next) => if st.status = 0 then (st, .next) else eval callee n tested b st
      | r => r
    | .negate a =>
      match eval callee n true a st with
      | (st, .next) => (st.withStatus (if st.status = 0 then 1 else 0), .next)
      | r => r
    | .pipe a b => check tested (runJoined (eval callee n) tested a b 10 0x10000 st)
    | .loop sought condition body =>
      let (done, flow) := loop callee n tested sought condition body 0
        { st with loops := st.loops + 1 }
      ({ done with loops := st.loops }, flow)
    | .branch condition yes no =>
      match optional callee n true condition st with
      | (st, .next) =>
        if st.status = 0 then optional callee n tested yes st
        else optional callee n tested no st
      | r => r
    | .choose line word branches =>
      let chosen : Action (Option Cmd) := do
        let subject ← expandOne (capture (eval callee n)) word
        branchFor (eval callee n) subject branches
      match chosen.run.run { st with line := line } with
      | (.error message, st) => st.abandon message
      | (.ok body, st) => optional callee n tested body st
    | .each line name words body =>
      let values : Action (List Octets) :=
        match words with
        | none => do return (← get).args
        | some words => expandAll (capture (eval callee n)) words
      match values.run.run { st with line := line } with
      | (.error message, st) => st.abandon message
      | (.ok values, st) =>
        let (done, flow) := each callee n tested name values body 0
          { st with loops := st.loops + 1 }
        ({ done with loops := st.loops }, flow)
    | .subshell line body =>
      let (inside, flow) := optional callee n tested body { st.inner with line := line }
      let (inside, flow) := inside.conclude (eval callee n) flow
      match flow with
      | .killed k => (st.after inside, .killed k)
      | flow => check tested ((st.after (inside.settle flow)).noteEnd flow, .next)
    | .background body =>
      let begun := { st.inner with toProcess := st.connectNew 0 .null }
      let (inside, flow) := eval callee n tested body begun
      let (inside, flow) := inside.conclude (eval callee n) flow
      let job := (st.nextJob, (inside.settle flow).status)
      ({ st.after inside with jobs := job :: st.jobs, status := 0 }, .next)
    | .define name body =>
      ({ st.forget name with
          functions := (name, body) :: st.functions.filter fun f => f.1 ≠ name
          status := 0 }, .next)
    | .redirected line body redirects =>
      match (expandTargets (eval callee n) redirects).run.run { st with line := line } with
      | (.error message, st) => st.abandon message
      | (.ok targets, st) =>
        match (redirect (eval callee n) targets).run.run st with
        | (.error message, failed) =>
          check tested (((failed.complain message).restore st targets).withStatus 2, .next)
        | (.ok (), ready) =>
          let (done, flow) := eval callee n tested body ready
          (done.restore st targets, flow)
termination_by structural n => n

def optional (callee : Callee) : (budget : Nat) → (tested : Bool) → Option Cmd → State →
    State × Flow
  | 0, _, _, st => (st, .died 11)
  | _, _, none, st => (st.withStatus 0, .next)
  | n + 1, tested, some c, st => eval callee n tested c st
termination_by structural n => n

/-- Runs a body while a condition holds, or until it does. `last` is the status that the loop has
so far. -/
def loop (callee : Callee) : (budget : Nat) → (tested sought : Bool) →
    (condition body : Option Cmd) → (last : Nat) → State → State × Flow
  | 0, _, _, _, _, _, st => (st, .died 11)
  | n + 1, tested, sought, condition, body, last, st =>
    match optional callee n true condition st with
    | (st, .next) =>
      if decide (st.status = 0) = sought then
        let (st, flow) := optional callee n tested body st
        match loopFlow flow with
        | none => loop callee n tested sought condition body st.status st
        | some flow => (st, flow)
      else (st.withStatus last, .next)
    | (st, flow) =>
      match loopFlow flow with
      | none => loop callee n tested sought condition body last st
      | some flow => (st, flow)
termination_by structural n => n

/-- Runs a body for each of the values. `last` is the status that the loop has so far. -/
def each (callee : Callee) : (budget : Nat) → (tested : Bool) → Octets → List Octets →
    Option Cmd → (last : Nat) → State → State × Flow
  | 0, _, _, _, _, _, st => (st, .died 11)
  | _, _, _, [], _, last, st => (st.withStatus last, .next)
  | n + 1, tested, name, v :: vs, body, _, st =>
    match st.assign name v with
    | .error message => st.abandon message
    | .ok st =>
      let (st, flow) := optional callee n tested body st
      match loopFlow flow with
      | none => each callee n tested name vs body st.status st
      | some flow => (st, flow)
termination_by structural n => n

end

def scriptBudget : Nat := 1000000

end State

def runScript (callee : Callee) (isFile : Bool) (script : Octets) (st : State) : Process × Int :=
  let run := State.eval callee State.scriptBudget
  let (done, flow) := State.runText run false isFile script st
  let (done, flow) := done.conclude run flow
  (done.toProcess,
    match flow with
    | .killed n | .died n => -(n : Int)
    | flow => (done.settle flow).status)

end LineShell.Posix

import LineShell.Input.Stream
import LineShell.Posix.Programs
import LineShell.Run
import LineShell.Settings.Standard
import Std.Time.DateTime.Timestamp

namespace LineShell.Main

open Files (Environment Node Place Tree)

def inherited : List String := ["HOME", "PATH", "USER", "LANG", "LC_ALL", "TERM", "COLUMNS"]

def inheritedValues : IO (List (String × String)) := do
  let values ← inherited.mapM fun name => do return (name, ← IO.getEnv name)
  return values.filterMap fun (name, value) => value.map fun v => (name, v)

def linesOf (path : String) : IO (List String) := do
  try return (← IO.FS.lines path).toList
  catch _ => return []

def userNumber? : IO (Option String) := do
  let fields := (← linesOf "/proc/self/status").map fun line => line.splitOn "\t"
  return fields.findSome? fun
    | "Uid:" :: number :: _ => some number
    | _ => none

def passwords : IO (List (String × String × String)) := do
  return (← linesOf "/etc/passwd").filterMap fun line =>
    match line.splitOn ":" with
    | [name, _, number, _, _, home, _] => some (name, number, home)
    | _ => none

def environment : IO Environment := do
  let passwords ← passwords
  let number? ← userNumber?
  let own := passwords.find? fun (_, number, _) => some number = number?
  return ⟨← inheritedValues, own.map fun (_, _, home) => home,
    passwords.map fun (name, _, home) => (name, home)⟩

def clock : IO String := do
  let now ← Std.Time.Timestamp.now
  let seconds := (now.toSecondsSinceUnixEpoch.val % 86400).toNat
  return String.intercalate ":"
    ([seconds / 3600, seconds / 60 % 60, seconds % 60].map (Value.padded 2))

partial def readAll (stream : IO.FS.Stream) (held : List UInt8) : IO (List UInt8) := do
  let bytes ← stream.read 8192
  if bytes.isEmpty then return held else readAll stream (held ++ bytes.toList)

/-- A file with this content. One that starts like a script may be started. -/
def fileOf (bytes : List UInt8) : Node :=
  .file (if bytes.take 2 = [35, 33] then 0o755 else Files.newFileMode) bytes

partial def scan (place : Place) (entries : Array IO.FS.DirEntry) :
    IO (List (Place × Node)) := do
  let mut found := []
  for e in entries do
    let here := e.fileName :: place
    match (← e.path.symlinkMetadata).type with
    | .dir => found := found ++ (here, .directory) :: (← scan here (← e.path.readDir))
    | .file => found := (here, fileOf (← IO.FS.readBinFile e.path).toList) :: found
    | _ => pure ()
  return found

def installFile (t : Tree) (path : String) : IO Tree := do
  try
    let bytes ← IO.FS.readBinFile path
    let top : Tree := { t with here := [] }
    return { top.install path (fileOf bytes.toList) with here := t.here }
  catch _ => return t

def upward : Place → List Place
  | [] => [[]]
  | name :: rest => (name :: rest) :: upward rest

def snapshot (home : Option String) : IO Tree := do
  let directory ← IO.currentDir
  let here := (Files.Path.components directory.toString).reverse
  let above := (upward here).map fun place => (place, Node.directory)
  let below ← scan here (← directory.readDir)
  let t : Tree := ⟨below ++ above ++ Tree.standard.entries, here, []⟩
  match home with
  | none => return t
  | some home =>
    [Settings.usualFile, Settings.defaultHistoryFile].foldlM
      (fun t name => installFile t (home ++ String.ofList (name.toList.drop 1))) t

def writeBack (before after : Tree) : IO Unit := do
  for (path, content) in
      Tree.changes { before with here := [] } { after with here := [] } do
    match content with
    | some (.bytes bytes) => IO.FS.writeBinFile ("/" ++ path) (ByteArray.mk bytes.toArray)
    | some (.link _) => pure ()
    | none => IO.FS.removeFile ("/" ++ path)

def display (style : Log.Style) (entries : List Entry) : IO Unit := do
  let stdout ← IO.getStdout
  let stderr ← IO.getStderr
  for e in entries do
    stdout.putStr (Transcript.stdout [e])
    stderr.putStr (Transcript.stderr style [e])
  stdout.flush

def readsInput (texts : List String) : Bool :=
  match CommandLine.parse texts with
  | .ok (.run a) => a.command.isNone && a.script.isNone
  | _ => false

end LineShell.Main

open LineShell in
def main (args : List String) : IO UInt32 := do
  let environment ← Main.environment
  let files ← Main.snapshot environment.home?
  let stdin ← IO.getStdin
  let bytes ← if Main.readsInput args then Main.readAll stdin [] else pure []
  let setting : Run.Setting :=
    ⟨environment, .standard "not a document", Posix.programs Posix.maxDepth environment,
      ← stdin.isTty, Input.ofBytes bytes, ""⟩
  let outcome := Run.run setting args (World.ofFiles files)
  Main.display (Run.logStyle (← Main.clock) args) outcome.world.transcript
  Main.writeBack files outcome.world.files
  match outcome.finish with
  | .early status | .status status => return UInt32.ofNat status
  | .unhandled failure =>
    Main.display .bare [.error (CommandLine.complaint failure.message ++ "\n")]
    return 1

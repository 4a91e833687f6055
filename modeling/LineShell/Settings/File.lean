import LineShell.Settings.Validation
import LineShell.World

namespace LineShell

inductive FileError where
  | missing (path : String)
  | unreadable (path : String) (cause : Cause)
  /-- The file holds no document, for the reason that the text gives. -/
  | malformed (path text : String)
  | notMapping (path : String)
  | invalid (path : String) (problems : List Settings.Problem)

inductive Settings.LoadFailure where
  | file (error : FileError)
  | unhandled (failure : Unhandled)

namespace FileError

def headline : FileError → String
  | missing path => "Configuration file not found: " ++ path
  | unreadable path cause => "Failed to read " ++ path ++ ": " ++ cause.text
  | malformed path text => "Failed to read " ++ path ++ ": " ++ text
  | notMapping path => path ++ ": top level must be a mapping"
  | invalid path _ => "Invalid configuration in " ++ path ++ ":"

def message (report : List Settings.Problem → String) (e : FileError) : String :=
  match e with
  | invalid _ problems => e.headline ++ "\n" ++ report problems
  | _ => e.headline

end FileError

namespace Settings

open LoadFailure (unhandled)

/-- The names and values of a mapping all of whose keys are texts. -/
def named? : List (Value × Value) → Option (List (String × Value))
  | [] => some []
  | (.text name, v) :: r => (named? r).map ((name, v) :: ·)
  | _ => none

section

variable (library : Library) (environment : Files.Environment)

def ofValue (path : String) (v : Value) : Except LoadFailure Settings :=
  let pairs? : Option (List (Value × Value)) :=
    match v with
    | .null => some []
    | .mapping pairs => some pairs
    | _ => none
  match pairs? with
  | none => .error (.file (.notMapping path))
  | some pairs =>
    match named? pairs with
    | none => .error (unhandled .unnamedSetting)
    | some values =>
      match validate library.coercions environment values with
      | .ok s => .ok s
      | .error (.problems ps) => .error (.file (.invalid path ps))
      | .error (.unhandled failure) => .error (unhandled failure)

/-- Settings from what came of a document. -/
def ofDocument (path : String) : Except DocumentFailure Value → Except LoadFailure Settings
  | .ok v => ofValue library environment path v
  | .error (.malformed text) => .error (.file (.malformed path text))
  | .error (.underneath failure) => .error (unhandled (.underneath failure))

def ofBytes (path : String) (bytes : List UInt8) : Except LoadFailure Settings :=
  let source := Text.Source.ofBytes bytes
  match source.flaw? with
  | none => ofDocument library environment path (library.loader.whole source.text)
  | some flaw =>
    match library.loader.part source.text with
    | some document => ofDocument library environment path document
    | none => .error (unhandled (.undecodable flaw))

/-- The faults which say that there is no file. -/
def absences : List Files.Fault := [.noEntry, .notDirectory, .badDescriptor, .tooManyLinks]

/-- Whether there is a file at a path. Any other fault is a failure. -/
def exists? (files : Files.Tree) (path : String) : Except LoadFailure Bool :=
  if Files.hasNull path then .ok false
  else match files.locate .look path with
    | .ok (.node _ _) => .ok true
    | .ok (.vacant _) => .ok false
    | .error fault =>
      if fault ∈ absences then .ok false else .error (unhandled (.system fault path))

/-- Reads the settings file at a path in normal form, which is there. -/
def readFile (w : World) (path : String) : World × Except LoadFailure Settings :=
  match w.files.read path with
  | .error cause => (w, .error (.file (.unreadable path cause)))
  | .ok bytes =>
    match ofBytes library environment path bytes with
    | .ok s => (w.note (.settingsLoaded path), .ok s)
    | .error e => (w, .error e)

def loadNamed (w : World) (path : String) : World × Except LoadFailure Settings :=
  let normal := Files.Path.normal path
  match exists? w.files normal with
  | .error e => (w, .error e)
  | .ok false => (w, .error (.file (.missing path)))
  | .ok true => readFile library environment w normal

def usualFile : String := "~/.pathshell.yaml"

/-- The settings in the usual file, or those to fall back on if it is missing. -/
def loadUsual (w : World) : World × Except LoadFailure Settings :=
  match Files.Path.expandHome environment usualFile with
  | .error _ => (w, .error (unhandled .homeUnknown))
  | .ok path =>
    match exists? w.files path with
    | .error e => (w, .error e)
    | .ok true => readFile library environment w path
    | .ok false =>
      let w := w.note .settingsDefault
      match ofValue library environment path .null with
      | .ok s => (w, .ok s)
      | .error e => (w, .error e)

/-- The settings for a run: those in the file that is named, or else in the usual one. -/
def load (w : World) : (path : Option String) → World × Except LoadFailure Settings
  | some path => loadNamed library environment w path
  | none => loadUsual library environment w

end

end Settings

end LineShell

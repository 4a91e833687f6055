import LineShell.Proofs.Settings.Validation
import LineShell.Proofs.Text.Source

namespace LineShell.Settings

open Files
open LoadFailure (unhandled)

/-- The path name, in normal form, of the settings file: the one that is named, or the usual one
in the home directory. -/
def fileOf (environment : Environment) : Option String → Except Path.HomeFault String
  | some path => .ok (Path.normal path)
  | none => Path.expandHome environment usualFile

variable {library : Library} {environment : Environment} {files : Tree} {w : World}
  {path : Option String} {file name : String} {bytes : List UInt8} {v : Value}
  {pairs : List (Value × Value)} {values : List (String × Value)} {s : Settings} {u : Unhandled}
  {document : Except DocumentFailure Value}

theorem load_of_fileOf_error {fault : Path.HomeFault} (h : fileOf environment path = .error fault) :
    load library environment w path = (w, .error (unhandled .homeUnknown)) := by
  cases path with
  | some path => cases h
  | none =>
    change Path.expandHome environment usualFile = .error fault at h
    rw [load, loadUsual, h]

/-- Settings that are loaded if there is no file where it is looked for. -/
def orMissing (library : Library) (environment : Environment) (w : World) (file : String) :
    Option String → World × Except LoadFailure Settings
  | some path => (w, .error (.file (.missing path)))
  | none => (w.note .settingsDefault, ofValue library environment file .null)

/-- A settings file is looked for, and read if it is there. -/
theorem load_of_fileOf (h : fileOf environment path = .ok file) :
    load library environment w path =
      match exists? w.files file with
      | .error e => (w, .error e)
      | .ok true => readFile library environment w file
      | .ok false => orMissing library environment w file path := by
  cases path with
  | some path =>
    cases h
    rw [load, loadNamed]
    cases exists? w.files (Path.normal path) with
    | error e => rfl
    | ok there => cases there <;> rfl
  | none =>
    change Path.expandHome environment usualFile = .ok file at h
    rw [load, loadUsual, h]
    dsimp only
    cases exists? w.files file with
    | error e => rfl
    | ok there =>
      cases there with
      | true => rfl
      | false =>
        dsimp only [orMissing]
        cases ofValue library environment file .null <;> rfl

/-- A directory in which nothing can be looked up does not count as one without the file. -/
example (library : Library) :
    let files := { Tree.standard with barred := [(["box", "tmp"], .accessDenied)] }
    (load library (.ofVariables []) (World.ofFiles files) (some "shell.yaml")).2 =
      .error (unhandled (.system .accessDenied "shell.yaml")) := rfl

end LineShell.Settings

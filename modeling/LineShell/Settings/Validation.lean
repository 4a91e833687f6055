import LineShell.Files.Home
import LineShell.Settings.Basic
import LineShell.Settings.Library
import LineShell.Text.Blank
import LineShell.Text.Literal

namespace LineShell

namespace Settings

def names : List String :=
  ["prompt", "comment_prefix", "strict_redirection", "ignore_interrupt", "history_file",
    "history_length"]

namespace Issue

def badMark (literal : String) : Issue :=
  .ofError ("comment_prefix must be a non-empty word, got " ++ literal)

def negative : Issue := ⟨"greater_than_equal", "Input should be greater than or equal to 0"⟩

def nullInPath : Issue := .ofError Cause.nullCharacter.text

def unknown : Issue := ⟨"extra_forbidden", "Extra inputs are not permitted"⟩

end Issue

inductive Refusal where
  | problems (list : List Problem)
  | unhandled (failure : Unhandled)

def defaultHistoryFile : String := "~/.pathshell_history"

/-- Whether a text may mark comments: a word, not empty and without white space. -/
def isMark (s : String) : Bool := s ≠ "" && !s.toList.any Text.isBlank

def toMark (c : Coercions) : Value → Except Issue (Option String)
  | .null => .ok none
  | v =>
    match c.toText v with
    | .error issue => .error issue
    | .ok s => if isMark s then .ok (some s) else .error (.badMark (Text.Literal.ofString s))

def toLength (c : Coercions) (v : Value) : Except Issue Nat :=
  match c.toInteger v with
  | .error issue => .error issue
  | .ok n => if n < 0 then .error .negative else .ok n.toNat

/-- A path name with its home directory put in. It is no problem of the path name if that is not
known, but a failure. -/
def expand (environment : Files.Environment) (path : String) :
    Except Unhandled (Except Issue (Option String)) :=
  match Files.Path.expandHome environment path with
  | .ok file => .ok (.ok (some file))
  | .error .nullCharacter => .ok (.error .nullInPath)
  | .error .unknown => .error .homeUnknown

/-- Any value but none as a path, by its plain text. -/
def toPath (c : Coercions) (environment : Files.Environment) :
    Value → Except Unhandled (Except Issue (Option String))
  | .null => .ok (.ok none)
  | v =>
    match c.written v with
    | .error (.issue issue) => .ok (.error issue)
    | .error (.underneath failure) => .error (.underneath failure)
    | .ok path => expand environment path

/-- The path of the history file: that of its value, or the one to fall back on. -/
def toHistoryFile (c : Coercions) (environment : Files.Environment) :
    (value? : Option Value) → Except Unhandled (Except Issue (Option String))
  | some v => toPath c environment v
  | none => expand environment defaultHistoryFile

/-- The setting of this name, read by `read`, or the value to fall back on. -/
def setting {α : Type} (values : List (String × Value)) (name : String) (default : α)
    (read : Value → Except Issue α) : Except Problem α :=
  match values.lookup name with
  | none => .ok default
  | some v =>
    match read v with
    | .ok a => .ok a
    | .error issue => .error ⟨name, issue, v⟩

def problem {α : Type} : Except Problem α → List Problem
  | .ok _ => []
  | .error p => [p]

/-- Settings from named values. Assumed of the library that reads them: it reads the settings in
order, each from its own value alone, finds all problems at once, and takes names that are no
settings for problems too. Only a failure that is no problem stops it. -/
def validate (c : Coercions) (environment : Files.Environment) (values : List (String × Value)) :
    Except Refusal Settings :=
  let prompt := setting values "prompt" "$ " c.toText
  let mark := setting values "comment_prefix" (some "#") (toMark c)
  let strict := setting values "strict_redirection" true c.toBool
  let ignore := setting values "ignore_interrupt" true c.toBool
  let length := setting values "history_length" 1000 (toLength c)
  let strange := (values.filter fun v => !names.contains v.1).map fun v =>
    Problem.mk v.1 .unknown v.2
  match toHistoryFile c environment (values.lookup "history_file") with
  | .error failure => .error (.unhandled failure)
  | .ok path =>
    let file := setting values "history_file" path.toOption.join fun _ => path
    match prompt, mark, strict, ignore, file, length, strange with
    | .ok prompt, .ok mark, .ok strict, .ok ignore, .ok file, .ok length, [] =>
      .ok ⟨prompt, mark, strict, ignore, file, length⟩
    | prompt, mark, strict, ignore, file, length, strange =>
      .error (.problems (problem prompt ++ problem mark ++ problem strict ++ problem ignore ++
        problem file ++ problem length ++ strange))

def values (s : Settings) : List (String × Value) :=
  let optional : Option String → Value
    | none => .null
    | some t => .text t
  [("prompt", .text s.prompt), ("comment_prefix", optional s.commentMark),
    ("strict_redirection", .bool s.strictRedirection),
    ("ignore_interrupt", .bool s.ignoreInterrupts), ("history_file", optional s.historyFile),
    ("history_length", .int s.historyLength)]

end Settings

end LineShell

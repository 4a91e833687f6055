import LineShell.Command.Builtin
import LineShell.Files.Access
import LineShell.Log
import LineShell.Report

namespace LineShell.Command

open Files (Tree)

inductive Resolution where
  | builtin (builtin : Builtin)
  | external (path : String)
  | notFound
deriving Repr, DecidableEq

/-- The kind of a resolution, as the log and its readers know it. -/
def Resolution.kind : Resolution → String
  | .builtin _ => "builtin"
  | .external _ => "external"
  | .notFound => "not_found"

/-- The directories of a search path; an empty entry is the working directory. -/
def directories (searchPath : String) : List String :=
  (Text.pieces (· == ':') searchPath.toList).map fun d =>
    if d.isEmpty then "." else String.ofList d

/-- The first entry of this name in the directories of the search path. -/
def search (files : Tree) (searchPath name : String) : Option String :=
  ((directories searchPath).map fun d => Files.Path.join d name).find? files.has

def isLiteral (files : Tree) (name : String) : Bool :=
  name.toList.contains '/' && files.has name

/-- The file that a name stands for. The search path is needed only where the name is not a path
name itself. -/
def program? (files : Tree) (searchPath : Option String) (name : String) :
    Except FatalError (Option String) :=
  if isLiteral files name then .ok (some name)
  else match searchPath with
    | none => .error .pathNotSet
    | some p => .ok (search files p name)

def resolve (files : Tree) (searchPath : Option String) (name : String) :
    Except FatalError Resolution :=
  match Builtin.ofName? name with
  | some b => .ok (.builtin b)
  | none =>
    match program? files searchPath name with
    | .error e => .error e
    | .ok (some path) => .ok (.external path)
    | .ok none => .ok .notFound

def Resolution.events (name : String) : Resolution → List Log.Event
  | .builtin _ => []
  | .external path => if path = name then [.literalPath name] else [.foundInPath name path]
  | .notFound => [.notInPath name]

end LineShell.Command

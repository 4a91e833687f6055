import LineShell.Text.Pieces

namespace LineShell.Files.Path

open Text (pieces)

def components (path : String) : List String :=
  ((pieces (· == '/') path.toList).filter (fun w => !w.isEmpty)).map String.ofList

def root (path : String) : String :=
  match path.toList with
  | '/' :: '/' :: '/' :: _ => "/"
  | '/' :: '/' :: _ => "//"
  | '/' :: _ => "/"
  | _ => ""

/-- A path name in two parts: the root, and the components that do not stand for the directory
itself. -/
structure Parts where
  root : String
  names : List String
deriving Repr, DecidableEq

def Parts.ofPath (path : String) : Parts :=
  ⟨Path.root path, (components path).filter (· ≠ ".")⟩

/-- Writes the parts with single slashes; the empty path is written as the directory itself. -/
def Parts.toPath (p : Parts) : String :=
  let text := p.root ++ String.intercalate "/" p.names
  if text = "" then "." else text

/-- The normal form of a path name: the same components with single slashes, without those that
stand for the directory itself. Two slashes at the front are kept apart from one. -/
def normal (path : String) : String := (Parts.ofPath path).toPath

/-- The name of an entry of a directory; a name that starts at the root stands for itself. -/
def join (directory name : String) : String :=
  if name.toList.head? = some '/' then name
  else if directory = "" || directory.toList.getLast? = some '/' then directory ++ name
  else directory ++ "/" ++ name

def isAbsolute (path : String) : Bool := path.toList.head? = some '/'

end LineShell.Files.Path

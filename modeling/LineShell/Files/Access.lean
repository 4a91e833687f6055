import LineShell.Cause
import LineShell.Files.Lookup

namespace LineShell.Files

/-- The permissions of a file that is created. -/
def newFileMode : Nat := 0o644

/-- Whether a path name or argument cannot be passed to the system. -/
def hasNull (s : String) : Bool := s.toList.contains '\x00'

namespace Tree

def has (t : Tree) (path : String) : Bool :=
  if hasNull path then false
  else match t.locate .look path with
    | .ok (.node _ _) => true
    | _ => false

def read (t : Tree) (path : String) : Except Cause (List UInt8) :=
  if hasNull path then .error .nullCharacter
  else match t.locate .look path with
    | .error fault => .error (.ofFaultAt fault path)
    | .ok (.vacant _) => .error (.ofFaultAt .noEntry path)
    | .ok (.node _ (.file _ content)) => .ok content
    | .ok (.node _ .directory) => .error (.ofFaultAt .isDirectory path)
    | .ok (.node _ (.device .full)) | .ok (.node _ .interpreter) =>
      .error (.ofFaultAt .accessDenied path)
    | .ok (.node _ _) => .ok []

/-- What a path name leads to when it is opened for writing. -/
inductive Target where
  | file (place : Place) (mode : Nat) (content : List UInt8)
  | device (kind : Device)
deriving Repr, DecidableEq

/-- Opens a path name for writing: a regular file with what it holds so far, or a special file. -/
def target (t : Tree) (path : String) : Except Cause Target :=
  if hasNull path then .error .nullCharacter
  else match t.locate .create path with
    | .error fault => .error (.ofFaultAt fault path)
    | .ok (.vacant place) => .ok (.file place newFileMode [])
    | .ok (.node place (.file mode content)) => .ok (.file place mode content)
    | .ok (.node _ (.device kind)) => .ok (.device kind)
    | .ok (.node _ .interpreter) => .error (.ofFaultAt .accessDenied path)
    | .ok (.node _ _) => .error (.ofFaultAt .isDirectory path)

/-- Makes a path name hold exactly these bytes. Assumed of regular files: one that opens takes all
of them, so no disk is full, and no quota or limit of size is reached. -/
def write (t : Tree) (path : String) (bytes : List UInt8) : Except Cause Tree :=
  match t.target path with
  | .error cause => .error cause
  | .ok (.file place mode _) => .ok (t.set place (.file mode bytes))
  | .ok (.device .null) => .ok t
  | .ok (.device .full) => if bytes.isEmpty then .ok t else .error (.ofFault .noSpace)

/-- A successful write to a regular file sets its place, and nothing else. -/
theorem write_eq_set {t : Tree} {path : String} {place : Place} {mode : Nat}
    {content : List UInt8} (h : t.target path = .ok (.file place mode content))
    (bytes : List UInt8) : t.write path bytes = .ok (t.set place (.file mode bytes)) := by
  simp [write, h]

/-- Puts a node at a path name below the working directory, and the directories on the way. -/
def install (t : Tree) (path : String) (node : Node) : Tree :=
  let rec go (t : Tree) (directory : Place) : List String → Tree
    | [] => t
    | [name] => t.set (name :: directory) node
    | name :: rest =>
      match t.walk .look maxLinks directory [name] with
      | .ok (.node place _) => go t place rest
      | _ => go (t.set (name :: directory) .directory) (name :: directory) rest
  go t t.here (Path.components path)

/-- What can be seen of a regular file or a link. -/
inductive Content where
  | bytes (content : List UInt8)
  | link (target : String)
deriving Repr, DecidableEq

def content? (t : Tree) (p : Place) : Option Content :=
  match t.get? p with
  | some (.file _ content) => some (.bytes content)
  | some (.link target) => some (.link target)
  | _ => none

def relative (base place : Place) : String :=
  String.intercalate "/" (place.take (place.length - base.length)).reverse

/-- The regular files and links below the working directory whose content differs between two
trees, with the content they have in the second. -/
def changes (before after : Tree) : List (String × Option Content) :=
  let below (p : Place) : Bool := after.here.isSuffixOf p
  let places := (before.entries ++ after.entries).map (·.1)
  (places.filter fun p => below p && decide (before.content? p ≠ after.content? p)).map
    fun p => (relative after.here p, after.content? p)

end Tree

end LineShell.Files

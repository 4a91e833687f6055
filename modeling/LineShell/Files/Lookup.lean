import LineShell.Files.Path
import LineShell.Files.Tree

namespace LineShell.Files

inductive Found where
  | node (place : Place) (node : Node)
  /-- Nothing yet, but its directory is there. -/
  | vacant (place : Place)
deriving Repr, DecidableEq

/-- How far a walk gets without following a link. -/
inductive Descent where
  | found (f : Found)
  | refused (fault : Fault)
  /-- A link in `directory`, and the components after it. -/
  | link (directory : Place) (target : String) (rest : List String)
deriving Repr, DecidableEq

/-- A walk either only looks or means to create the last entry. -/
inductive Purpose where
  | look
  | create
deriving Repr, DecidableEq

/-- The components to follow. A slash at the end leaves an empty last component, which asks for
a directory. -/
def steps (path : String) : List String :=
  let names := Path.components path
  if !names.isEmpty && path.toList.getLast? = some '/' then names ++ [""] else names

/-- The longest name of an entry, in bytes. -/
def maxNameLength : Nat := 255

/-- The longest path name, in bytes. -/
def maxPathLength : Nat := 4095

def maxLinks : Nat := 40

namespace Tree

/-- Follows components downward from a directory up to the first link. A component that stands for
the directory itself is passed over without looking anything up. -/
def descend (t : Tree) (purpose : Purpose) (directory : Place) : List String → Descent
  | [] => .found (.node directory .directory)
  | name :: rest =>
    if name = "" ∨ name = "." then t.descend purpose directory rest
    else match t.barred.lookup directory with
      | some fault => .refused fault
      | none =>
        if name = ".." then t.descend purpose directory.tail rest
        else if purpose = .create ∧ rest = [""] then .refused .isDirectory
        else if name.utf8ByteSize > maxNameLength then .refused .nameTooLong
        else
          let place := name :: directory
          match t.get? place with
          | none => if rest.isEmpty then .found (.vacant place) else .refused .noEntry
          | some .directory => t.descend purpose place rest
          | some (.link target) => .link directory target rest
          | some node =>
            if rest.isEmpty then .found (.node place node) else .refused .notDirectory

def walk (t : Tree) (purpose : Purpose) : (links : Nat) → Place → List String → Except Fault Found
  | links, directory, names =>
    match t.descend purpose directory names with
    | .found f => .ok f
    | .refused fault => .error fault
    | .link directory target rest =>
      match links with
      | 0 => .error .tooManyLinks
      | n + 1 =>
        if target = "" then .error .noEntry
        else
          let names := if rest.isEmpty then steps target else Path.components target ++ rest
          t.walk purpose n (if Path.isAbsolute target then [] else directory) names

def locate (t : Tree) (purpose : Purpose) (path : String) : Except Fault Found :=
  if path = "" then .error .noEntry
  else if path.utf8ByteSize > maxPathLength then .error .nameTooLong
  else t.walk purpose maxLinks (if Path.isAbsolute path then [] else t.here) (steps path)

end Tree

end LineShell.Files

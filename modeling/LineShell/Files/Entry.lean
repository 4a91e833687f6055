import LineShell.Files.Lookup

namespace LineShell.Files.Tree

/-- The path name of the directory that holds the last component of a path name. -/
def directoryOf (path : String) : String :=
  let names := (Path.components path).dropLast
  (if Path.isAbsolute path then "/" else "./") ++ String.intercalate "/" names

/-- The place of the entry that a path name names. A directory is no entry of itself. -/
def entry (t : Tree) (path : String) : Except Fault Place :=
  match (Path.components path).getLast? with
  | none => .error (if path = "" then .noEntry else .busy)
  | some name =>
    if name = "." ∨ name = ".." then .error .busy
    else if name.utf8ByteSize > maxNameLength then .error .nameTooLong
    else match t.locate .look (directoryOf path) with
      | .error fault => .error fault
      | .ok (.node place .directory) =>
        match t.barred.lookup place with
        | some fault => .error fault
        | none => .ok (name :: place)
      | .ok (.node _ _) => .error .notDirectory
      | .ok (.vacant _) => .error .noEntry

/-- The target of the link that a path name names, if it names one. -/
def linkTarget? (t : Tree) (path : String) : Option String :=
  match t.entry path with
  | .ok place =>
    match t.get? place with
    | some (.link target) => some target
    | _ => none
  | .error _ => none

end LineShell.Files.Tree

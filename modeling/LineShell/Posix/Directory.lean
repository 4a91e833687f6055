import LineShell.Posix.State

namespace LineShell.Posix.Directory

open Files (Tree Place)

def physical (place : Place) : Octets :=
  Octets.ofText ("/" ++ String.intercalate "/" place.reverse)

/-- The name of what a path name stands for in a directory, by the components of both. -/
def name (directory path : Octets) : Octets :=
  let whole := if path.head? = some '/' then path else directory ++ '/' :: path
  let components := (Text.pieces (· == '/') whole).foldl
    (fun (shown : List Octets) c =>
      if c.isEmpty || c == ['.'] then shown
      else if c == ['.', '.'] then shown.tail
      else c :: shown) []
  '/' :: ['/'].intercalate components.reverse

def place? (files : Tree) (path : Octets) : Option Place :=
  match files.locate .look (Octets.toText path) with
  | .ok (.node place .directory) => some place
  | _ => none

def enter? (st : State) (isPhysical : Bool) (path : Octets) : Option State :=
  let target := if isPhysical then path else name st.directory path
  (place? st.files target).map fun place =>
    let directory := if isPhysical then physical place else target
    let own (value : Octets) : Variable :=
      { value := some value, exported := true, settled := false }
    { st with
      files := { st.files with here := place }
      directory := directory
      located := st.located.map fun (name, l) => (name, { l with isStale := true })
      bindings := (st.bindings.put "OLDPWD".toList (own st.directory)).put "PWD".toList
        (own directory) }

/-- The path names that a relative one may stand for, with whether a directory of the search path
was put in front. -/
def candidates (st : State) (path : Octets) : List (Octets × Bool) :=
  let isPlain := path.head? = some '/' ∨ path = ['.'] ∨ path = ['.', '.'] ∨
    "./".toList.isPrefixOf path ∨ "../".toList.isPrefixOf path
  match st.get? "CDPATH".toList with
  | none => [(path, false)]
  | some search =>
    if isPlain then [(path, false)]
    else
      (Text.pieces (· == ':') search).map (fun d =>
        if d.isEmpty then (path, false) else (d ++ '/' :: path, true)) ++ [(path, false)]

end LineShell.Posix.Directory

import LineShell.Files.Path
import LineShell.Posix.Condition
import LineShell.Posix.Source
import LineShell.Posix.State

namespace LineShell.Posix

def regularBuiltins : List String :=
  ["[", "alias", "bg", "cd", "chdir", "command", "echo", "false", "fg", "getopts", "hash", "jobs",
    "kill", "printf", "pwd", "read", "test", "true", "type", "ulimit", "umask", "unalias", "wait"]

def isBuiltin (name : Octets) : Bool :=
  isSpecial name || regularBuiltins.contains (String.ofList name)

inductive Meaning where
  | keyword
  | synonym (text : Octets)
  | function
  | builtin (isSpecial : Bool)
  | program (path : Octets) (isKnown : Bool)

/-- The order of listings: by a sum over the characters of a name, then as they were added. -/
def listingOrder {α : Type} (buckets : Nat) (entries : List (Octets × α)) :
    List (Octets × α) :=
  let sum (name : Octets) : Nat :=
    name.foldl (fun n c => n + c.toNat) ((name.head?.map (·.toNat)).getD 0 * 16) % buckets
  entries.mergeSort fun a b => sum a.1 ≤ sum b.1

namespace State

def searchPath (st : State) : List String :=
  (Text.pieces (· == ':') (Octets.toText ((st.get? "PATH".toList).getD [])).toList).map
    String.ofList

def candidates (st : State) (name : Octets) : List String :=
  if name.contains '/' then [Octets.toText name]
  else st.searchPath.map fun d => Files.Path.join d (Octets.toText name)

def program? (st : State) (name : Octets) : Option String :=
  let executable (path : String) : Bool :=
    match st.files.locate .look path with
    | .ok (.node _ .directory) => false
    | .ok (.node _ node) => Condition.isExecutable node
    | _ => false
  (st.candidates name).find? fun path => name.contains '/' || executable path

def forget (st : State) (name : Octets) : State :=
  { st with located := st.located.filter fun l => l.1 ≠ name }

def remember (st : State) (name : Octets) (path : String) : State :=
  let found : Octets × Located := (name, ⟨Octets.ofText path, false⟩)
  if name.contains '/' then st
  else if (st.located.lookup name).isNone then { st with located := st.located ++ [found] }
  else { st with located := st.located.map fun l => if l.1 = name then found else l }

/-- What a name stands for, if it stands for anything. A program is remembered. -/
def meaning (st : State) (name : Octets) : State × Option Meaning :=
  if keywords.contains (String.ofList name) then (st, some .keyword)
  else match st.aliases.lookup name with
  | some text => (st, some (.synonym text))
  | none =>
    if (st.functions.lookup name).isSome then (st, some .function)
    else if isBuiltin name then (st, some (.builtin (isSpecial name)))
    else match st.located.lookup name with
    | some l => (st, some (.program l.path true))
    | none =>
      match st.program? name with
      | some path =>
        if st.files.has path then
          (st.remember name path, some (.program (Octets.ofText path) false))
        else (st, none)
      | none => (st, none)

end State

namespace Meaning

def definition (name text : Octets) : Octets := name ++ '=' :: Octets.quoted text ++ ['\n']

def brief (name : Octets) : Option Meaning → Octets
  | some (.synonym text) => "alias ".toList ++ definition name text
  | some (.program path _) => path ++ ['\n']
  | some _ => name ++ ['\n']
  | none => []

def sentence (name : Octets) (m : Option Meaning) : Octets :=
  name ++ (match m with
    | some .keyword => " is a shell keyword".toList
    | some (.synonym text) => " is an alias for ".toList ++ text
    | some .function => " is a shell function".toList
    | some (.builtin isSpecial) =>
      (if isSpecial then " is a special shell builtin" else " is a shell builtin").toList
    | some (.program path isKnown) =>
      (if isKnown then " is a tracked alias for " else " is ").toList ++ path
    | none => ": not found".toList) ++ ['\n']

end Meaning

end LineShell.Posix

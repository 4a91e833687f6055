import LineShell.Settings.Coercion
import LineShell.Yaml.Document

namespace LineShell

namespace Settings.Problem

def place (p : Problem) : String :=
  if p.name.toList.contains '.' then "`" ++ p.name ++ "`" else p.name

def maxShown : Nat := 50

def firstBytes : (n : Nat) → List Char → List Char
  | _, [] => []
  | n, c :: r => if c.utf8Size ≤ n then c :: firstBytes (n - c.utf8Size) r else []

def shorten (s : String) : String :=
  if s.utf8ByteSize ≤ maxShown then s
  else
    let half := maxShown / 2
    String.ofList (firstBytes half s.toList ++ "...".toList ++
      (firstBytes (half - 1) s.toList.reverse).reverse)

def shown (v : Value) : String :=
  if v.isWritable then shorten v.literal else "<unprintable " ++ v.kind ++ " object>"

/-- A problem on two lines: where it is, then what it is, with the rule that is broken, the value
and its kind. -/
def text (p : Problem) : String :=
  p.place ++ "\n  " ++ p.issue.message ++ " [type=" ++ p.issue.rule ++ ", input_value=" ++
    shown p.value ++ ", input_type=" ++ p.value.kind ++ "]"

def texts (ps : List Problem) : String :=
  toString ps.length ++ " validation error" ++ (if ps.length = 1 then "" else "s") ++
    " for ShellConfig\n" ++ String.intercalate "\n" (ps.map text)

end Settings.Problem

namespace Yaml

/-- What comes of a document that says the same of every malformed text, or none if it goes on with
something that cannot be read. -/
def document? (complaint : String) : Reads Value → Option (Except Settings.DocumentFailure Value)
  | .ok v => some (.ok v)
  | .error .malformed => some (.error (.malformed complaint))
  | .error (.fault fault) => some (.error (.underneath ⟨fault.kind, fault.message⟩))
  | .error .unread => none

/-- A loader of documents with at most `depth` collections inside one another. -/
def loader (depth : Nat) (complaint : String) : Settings.Loader where
  whole text := (document? complaint (read depth true text)).getD (.error (.malformed complaint))
  part text := document? complaint (read depth false text)

def maxDepth : Nat := 490

end Yaml

def Settings.Library.standard (complaint : String) : Settings.Library :=
  ⟨Yaml.loader Yaml.maxDepth complaint, .lax, Problem.texts⟩

end LineShell

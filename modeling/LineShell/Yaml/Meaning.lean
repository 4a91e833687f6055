import LineShell.Text.Case
import LineShell.Yaml.Base64
import LineShell.Yaml.Moment
import LineShell.Yaml.Node
import LineShell.Yaml.Number

namespace LineShell.Yaml

def truthWords : List (String × Bool) :=
  [("yes", true), ("no", false), ("true", true), ("false", false), ("on", true), ("off", false)]

def truth (s : List Char) : Reads Value :=
  let word := String.ofList (Text.lower s)
  match truthWords.lookup word with
  | some b => .ok (.bool b)
  | none => .error (.fault (.truth word))

/-- The value of a date or moment. One end of a line after it does not count. -/
def timestamp (s : List Char) : Reads Value :=
  match Stamp.ofText? (if s.getLast? = some '\n' then s.dropLast else s) with
  | some stamp => stamp.value
  | none => .error (.fault .notMoment)

namespace Graph

/-- The text of a node: of a scalar, or of the content that stands for a mapping. The budget bounds
how far that is handed on. -/
def text (g : Graph) : (budget : Nat) → Nat → Reads (List Char)
  | 0, _ => malformed
  | n + 1, i =>
    match (g.node i).content with
    | .scalar s => .ok s
    | .sequence _ => malformed
    | .mapping pairs =>
      match pairs.find? fun p => (g.node p.1).tag == .content with
      | some (_, v) => g.text n v
      | none => malformed

def scalar (g : Graph) (i : Nat) : Reads Value := do
  let s ← g.text (g.size + 1) i
  match (g.node i).tag with
  | .null => return .null
  | .bool => truth s
  | .int => return .int (← Number.ofInteger s)
  | .float => return .float (← Number.ofFloat s)
  | .binary => return .bytes (← Base64.decode s)
  | .timestamp =>
    match (g.node i).content with
    | .scalar s => timestamp s
    | _ => .error (.fault .momentNotText)
  | .text => return .text (String.ofList s)
  | _ => malformed

def isCommonNaN (g : Graph) (i : Nat) : Bool :=
  match (g.node i).tag, g.text (g.size + 1) i with
  | .float, .ok s => Number.isNotNumberWord s
  | _, _ => false

end Graph

end LineShell.Yaml

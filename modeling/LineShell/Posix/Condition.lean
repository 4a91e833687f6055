import LineShell.Files.Access
import LineShell.Posix.Octets

namespace LineShell.Posix.Condition

def unaryOperators : List Octets :=
  ["-b", "-c", "-d", "-e", "-f", "-g", "-h", "-k", "-L", "-n", "-p", "-r", "-s", "-S", "-t", "-u",
    "-w", "-x", "-z", "-G", "-O"].map String.toList

def binaryOperators : List Octets :=
  ["=", "!=", "<", ">", "-eq", "-ne", "-gt", "-ge", "-lt", "-le", "-nt", "-ot", "-ef"].map
    String.toList

inductive Role where
  | nothing
  | operand
  | unary
  | binary
  | conjunction
  | disjunction
  | negation
  | opening
  | closing
deriving Repr, DecidableEq

def role : List Octets → Role
  | [] => .nothing
  | w :: r =>
    let isOperand : Bool :=
      match r with
      | [] => true
      | [_] => false
      | next :: _ => binaryOperators.contains next
    if unaryOperators.contains w then if isOperand then .operand else .unary
    else if binaryOperators.contains w then .binary
    else if w = ['-', 'a'] then .conjunction
    else if w = ['-', 'o'] then .disjunction
    else if w = ['!'] then .negation
    else if w = ['('] then if r.isEmpty then .operand else .opening
    else if w = [')'] then .closing
    else .operand

def found (files : Files.Tree) (path : Octets) (p : Files.Node → Bool) : Bool :=
  match files.locate .look (Octets.toText path) with
  | .ok (.node _ node) => p node
  | _ => false

def isExecutable : Files.Node → Bool
  | .file mode _ => mode &&& 0o111 ≠ 0
  | .directory | .interpreter => true
  | _ => false

def hasMode (bits : Nat) : Files.Node → Bool
  | .file mode _ => mode &&& bits ≠ 0
  | _ => false

def unaryTruth (files : Files.Tree) (op a : Octets) : Bool :=
  match String.ofList op with
  | "-n" => !a.isEmpty
  | "-z" => a.isEmpty
  | "-e" | "-r" | "-w" | "-G" | "-O" => files.has (Octets.toText a)
  | "-f" => found files a fun | .file .. | .interpreter => true | _ => false
  | "-d" => found files a fun | .directory => true | _ => false
  | "-c" => found files a fun | .device _ => true | _ => false
  | "-s" =>
    found files a fun | .file _ c => !c.isEmpty | .directory | .interpreter => true | _ => false
  | "-x" => found files a isExecutable
  | "-u" => found files a (hasMode 0o4000)
  | "-g" => found files a (hasMode 0o2000)
  | "-k" => found files a (hasMode 0o1000)
  | "-h" | "-L" =>
    let path := Octets.toText a
    match files.descend .look (if Files.Path.isAbsolute path then [] else files.here)
        (Files.steps path) with
    | .link _ _ [] => true
    | _ => false
  | _ => false

def place? (files : Files.Tree) (path : Octets) : Option Files.Place :=
  match files.locate .look (Octets.toText path) with
  | .ok (.node place _) => some place
  | _ => none

/-- The truth of an operator of two operands. Of two files, none is older than the other. -/
def binaryTruth (files : Files.Tree) (op a b : Octets) : Except Octets Bool :=
  let compare (f : Int → Int → Bool) : Except Octets Bool :=
    match Octets.intOfDecimal? a, Octets.intOfDecimal? b with
    | some x, some y => .ok (f x y)
    | none, _ => .error ("Illegal number: ".toList ++ a)
    | _, none => .error ("Illegal number: ".toList ++ b)
  match String.ofList op with
  | "=" => .ok (a = b)
  | "!=" => .ok (a ≠ b)
  | "<" => .ok (decide (a < b))
  | ">" => .ok (decide (b < a))
  | "-eq" => compare (· == ·)
  | "-ne" => compare (· != ·)
  | "-lt" => compare (· < ·)
  | "-le" => compare (· ≤ ·)
  | "-gt" => compare (· > ·)
  | "-ge" => compare (· ≥ ·)
  | "-ef" => .ok ((place? files a).isSome && place? files a = place? files b)
  | _ => .ok false

/-- What has been read of a condition: its truth, the last word of it, and the words after it. -/
structure Reading where
  truth : Bool
  last : Octets
  rest : List Octets

mutual

def disjunction (files : Files.Tree) : (budget : Nat) → List Octets → Except Octets Reading
  | 0, _ => .error []
  | n + 1, ws => do
    let a ← conjunction files n ws
    if role a.rest = .disjunction then
      let b ← disjunction files n a.rest.tail
      return { b with truth := a.truth || b.truth }
    else return a
termination_by structural n => n

def conjunction (files : Files.Tree) : (budget : Nat) → List Octets → Except Octets Reading
  | 0, _ => .error []
  | n + 1, ws => do
    let a ← negation files n ws
    if role a.rest = .conjunction then
      let b ← conjunction files n a.rest.tail
      return { b with truth := a.truth && b.truth }
    else return a
termination_by structural n => n

def negation (files : Files.Tree) : (budget : Nat) → List Octets → Except Octets Reading
  | 0, _ => .error []
  | n + 1, ws =>
    if role ws = .negation ∧ ws.length > 1 then do
      let a ← negation files n ws.tail
      return { a with truth := !a.truth }
    else if role ws = .negation then .ok ⟨true, ws.headD [], []⟩
    else primary files n ws
termination_by structural n => n

def primary (files : Files.Tree) : (budget : Nat) → List Octets → Except Octets Reading
  | 0, _ => .error []
  | n + 1, ws =>
    match role ws, ws with
    | .nothing, _ => .ok ⟨false, [], []⟩
    | _, [] => .ok ⟨false, [], []⟩
    | .opening, _ :: r =>
      if role r = .closing then .ok ⟨false, [')'], r.tail⟩
      else do
        let a ← disjunction files n r
        match role a.rest with
        | .closing => return { a with last := [')'], rest := a.rest.tail }
        | _ => .error "closing paren expected".toList
    | .unary, op :: a :: r => .ok ⟨unaryTruth files op a, a, r⟩
    | _, [a] => .ok ⟨!a.isEmpty, a, []⟩
    | _, a :: op :: r =>
      if role (op :: r) = .binary then
        match r with
        | [] => .error (op ++ ": argument expected".toList)
        | b :: r => do .ok ⟨← binaryTruth files op a b, b, r⟩
      else .ok ⟨!a.isEmpty, a, op :: r⟩
termination_by structural n => n

end

def truth (files : Files.Tree) : (words : List Octets) → Except Octets Bool
  | [] => .ok false
  | ws@(w :: rest) =>
    let whole (ws : List Octets) : Except Octets Bool := do
      let a ← disjunction files (4 * ws.length + 4) ws
      if a.rest.isEmpty then return a.truth
      else .error (if a.last.isEmpty then "unexpected operator".toList
        else a.last ++ ": unexpected operator".toList)
    match rest with
    | [op, b] =>
      if binaryOperators.contains op then binaryTruth files op w b
      else if w = ['('] ∧ b = [')'] then whole [op]
      else if w = ['!'] then (truth files rest).map (!·)
      else whole ws
    | [a, b, c] =>
      if w = ['('] ∧ c = [')'] then whole [a, b]
      else if w = ['!'] then (truth files rest).map (!·)
      else whole ws
    | _ => whole ws

end LineShell.Posix.Condition

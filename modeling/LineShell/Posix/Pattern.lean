import LineShell.Files.Access
import LineShell.Files.Entry
import LineShell.Posix.Octets

namespace LineShell.Posix

/-- A character of a word; only one that is not quoted may act in a pattern. -/
structure Glyph where
  char : Char
  active : Bool
deriving Repr, DecidableEq

abbrev Pattern := List Glyph

namespace Pattern

def ofText (active : Bool) (s : Octets) : Pattern := s.map fun c => ⟨c, active⟩

def text (p : Pattern) : Octets := p.map (·.char)

def acts (g : Glyph) (c : Char) : Bool := g.active && g.char == c

def classes : List (String × (Char → Bool)) :=
  let isPrinted (c : Char) : Bool := '!' ≤ c && c ≤ '~'
  let isWord (c : Char) : Bool := c.isAlphanum
  let isBlank (c : Char) : Bool := c == ' ' || c == '\t'
  [("alnum", isWord), ("alpha", Char.isAlpha), ("blank", isBlank),
    ("cntrl", fun c => c < ' ' || c == '\x7f'), ("digit", Char.isDigit), ("graph", isPrinted),
    ("lower", Char.isLower), ("print", fun c => c == ' ' || isPrinted c),
    ("punct", fun c => isPrinted c && !isWord c),
    ("space", fun c => c == ' ' || ('\t' ≤ c && c ≤ '\r')), ("upper", Char.isUpper),
    ("xdigit", Octets.isDigit 16)]

/-- The class that is named after an opening bracket inside brackets, and what follows it. -/
def class? (p : Pattern) : Option ((Char → Bool) × Pattern) :=
  classes.findSome? fun (name, test) =>
    let form := ofText true (":".toList ++ name.toList ++ ":]".toList)
    if form.isPrefixOf p then some (test, p.drop form.length) else none

/-- Whether a character is one of those listed up to a closing bracket, and what follows it. The
first of the list may be a closing bracket itself. -/
def members (c : Char) : (budget : Nat) → (first found : Bool) → Pattern → Option (Bool × Pattern)
  | 0, _, _, _ => none
  | _, _, _, [] => none
  | n + 1, first, found, g :: r =>
    if acts g ']' && !first then some (found, r)
    else match if acts g '[' then class? r else none, r with
      | some (test, r), _ => members c n false (found || test c) r
      | none, dash :: last :: rest =>
        if acts dash '-' && !acts last ']' then
          members c n false (found || (g.char ≤ c && c ≤ last.char)) rest
        else members c n false (found || g.char == c) r
      | none, r => members c n false (found || g.char == c) r

/-- Whether a character is one of those in brackets, after the opening one; and what follows the
closing one. -/
def choice (c : Char) (p : Pattern) : Option (Bool × Pattern) :=
  match p with
  | g :: r =>
    if acts g '!' then (members c (r.length + 1) true false r).map fun (found, r) => (!found, r)
    else members c (p.length + 1) true false p
  | [] => none

/-- Whether a text has any character that acts. Brackets act if they are closed. -/
def isActive : Pattern → Bool
  | [] => false
  | g :: r =>
    acts g '*' || acts g '?' || (acts g '[' && isClosed r) || isActive r
where
  /-- Whether a closing bracket follows, and not at once. -/
  isClosed (p : Pattern) : Bool :=
    let p := if p.head?.any fun g => acts g '!' then p.drop 1 else p
    (p.drop 1).any fun g => acts g ']'

def holds : (budget : Nat) → Pattern → Octets → Bool
  | 0, _, _ => false
  | _, [], s => s.isEmpty
  | n + 1, g :: p, s =>
    if acts g '*' then
      holds n p s ||
        match s with
        | [] => false
        | _ :: s => holds n (g :: p) s
    else match s with
      | [] => false
      | c :: s =>
        if acts g '?' then holds n p s
        else if acts g '[' then
          match choice c p with
          | some (found, p) => found && holds n p s
          | none => c == '[' && holds n p s
        else c == g.char && holds n p s

def accepts (p : Pattern) (s : Octets) : Bool := holds (p.length + s.length + 1) p s

/-- A text up to its first null character, which no value holds: the first of the arguments, when
the text is all of them. -/
def firstPart (s : Octets) : Octets := s.takeWhile (· ≠ '\x00')

/-- A text without the part at its start that a pattern accepts, the longest or the shortest. Of
several arguments the first alone is compared, and the longest part is all of them when it is the
whole of the first. -/
def dropFront (p : Pattern) (longest : Bool) (s : Octets) : Octets :=
  let order :=
    if longest then (List.range (s.length + 1)).reverse else List.range ((firstPart s).length + 1)
  match order.find? fun n => p.accepts (firstPart (s.take n)) with
  | some n => s.drop n
  | none => s

/-- A text without the part at its end that a pattern accepts, the longest or the shortest. Of
several arguments the longest part begins in the first, and what follows the part goes with it. -/
def dropBack (p : Pattern) (longest : Bool) (s : Octets) : Octets :=
  let order :=
    if longest then List.range ((firstPart s).length + 1) else (List.range (s.length + 1)).reverse
  match order.find? fun n => p.accepts (firstPart (s.drop n)) with
  | some n => s.take n
  | none => s

/-- The names in a directory; with `hidden`, also the names of itself and the one above. -/
def names (files : Files.Tree) (place : Files.Place) (hidden : Bool) : List Octets :=
  (if hidden then [".".toList, "..".toList] else []) ++
    files.entries.filterMap fun e =>
      match e.1 with
      | name :: parent => if parent = place then some (Octets.ofText name) else none
      | [] => none

/-- The path names that components lead to from a directory, where `shown` is the path name so
far. -/
def walk (files : Files.Tree) (shown : Octets) : List Pattern → List Octets
  | [] => [shown]
  | p :: rest =>
    let join (name : Octets) : Octets := shown ++ name ++ if rest.isEmpty then [] else ['/']
    if !p.isActive then walk files (join p.text) rest
    else
      let directory := if shown.isEmpty then "." else Octets.toText shown
      match files.locate .look directory with
      | .ok (.node place .directory) =>
        let hidden := (p.head?.map (·.char)) == some '.'
        let fitting := (names files place hidden).filter fun name =>
          (hidden || name.head? != some '.') && p.accepts name
        (fitting.map fun name => walk files (join name) rest).flatten
      | _ => []
termination_by ps => ps.length

def isThere (files : Files.Tree) (path : Octets) : Bool :=
  let path := Octets.toText path
  files.has path || (path.toList.getLast? ≠ some '/' && (files.linkTarget? path).isSome)

/-- The path names of a pattern that lead to something; the text of the pattern if there are
none. -/
def paths (files : Files.Tree) (p : Pattern) : List Octets :=
  if !p.isActive then [p.text]
  else
    let found := (walk files [] (Text.pieces (fun g => g.char == '/') p)).filter (isThere files)
    if found.isEmpty then [p.text] else found.mergeSort Octets.isUpTo

end Pattern

end LineShell.Posix

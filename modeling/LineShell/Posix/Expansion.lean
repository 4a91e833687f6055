import LineShell.Posix.Arithmetic
import LineShell.Posix.Pattern
import LineShell.Posix.State

namespace LineShell.Posix

/-- What a word has become before it is split. In a text, a null character, which no value holds,
stands between two arguments. -/
inductive Segment where
  /-- A quotation mark: even with nothing in quotes there is a field. -/
  | mark
  /-- Text that is kept as it is. -/
  | fixed (s : Octets)
  /-- Text that is kept together, in which patterns act. -/
  | plain (s : Octets)
  /-- Text that is split, in which patterns act. -/
  | loose (s : Octets)
  /-- The arguments in quotes, one field each. -/
  | arguments (s : Octets)
deriving Repr, DecidableEq

namespace Segment

def isSpace (c : Char) : Bool := c == ' ' || c == '\t' || c == '\n' || c == '\x00'

/-- A word as the value of a parameter: what is not quoted in it is split, what stands together as
one text. -/
def inValue (quoted : Bool) : List Segment → List Segment
  | [] => []
  | .plain s :: r =>
    if quoted then .fixed s :: inValue quoted r
    else match r, inValue quoted r with
      | .plain _ :: _, .loose s' :: r => .loose (s ++ s') :: r
      | _, r => .loose s :: r
  | s :: r => s :: inValue quoted r

structure Progress where
  /-- The fields that are complete, the last first. -/
  ended : List Pattern
  /-- The field begun, backwards. -/
  begun : Option Pattern
  /-- Whether white space has just ended a field. -/
  afterGap : Bool
  /-- Whether the last text split was the arguments in quotes. -/
  afterArguments : Bool

namespace Progress

def empty : Progress := ⟨[], none, false, false⟩

def add (p : Progress) (active : Bool) (c : Char) : Progress :=
  { p with begun := some (⟨c, active⟩ :: p.begun.getD []), afterGap := false }

def endField (p : Progress) (afterGap : Bool) : Progress :=
  { p with ended := (p.begun.getD []).reverse :: p.ended, begun := none, afterGap }

/-- Takes one more character of a text that is split. Unless each separator counts by itself, white
space only stands between fields, and around another separator. -/
def step (separators : Octets) (active each : Bool) (p : Progress) (c : Char) : Progress :=
  let separates := c == '\x00' || separators.contains c
  let isGap := separates && isSpace c
  if p.afterGap then
    if isGap then p
    else if separates then { p with afterGap := false }
    else p.add active c
  else if !separates then p.add active c
  else if isGap && !each && p.begun.isNone then p
  else p.endField (isGap && !each)

/-- Takes one more segment. In the text after the arguments in quotes each separator counts by
itself. -/
def take (separators : Octets) (p : Progress) : Segment → Progress
  | .mark => { p with begun := some (p.begun.getD []) }
  | .fixed s => s.foldl (add · false ·) p
  | .plain s => s.foldl (add · true ·) p
  | .loose s =>
    { s.foldl (step separators true p.afterArguments) { p with afterGap := false } with
      afterArguments := false }
  | .arguments s =>
    { s.foldl (step [] false true) { p with afterGap := false } with afterArguments := true }

/-- The fields of a word that has been split to its end. The last of the arguments is one also if
it is empty. -/
def fields (p : Progress) : List Pattern :=
  (if p.afterArguments || p.begun.isSome then p.endField false else p).ended.reverse

end Progress

def fields (separators : Octets) (segments : List Segment) : List Pattern :=
  (segments.foldl (Progress.take separators) Progress.empty).fields

def glyphs : Segment → Pattern
  | .mark => []
  | .fixed s | .arguments s => Pattern.ofText false s
  | .plain s | .loose s => Pattern.ofText true s

def text (segments : List Segment) : Octets := Pattern.text (segments.flatMap glyphs)

end Segment

abbrev Capture := Option Cmd → State → State × Octets

namespace Word

def home? (st : State) (name : Octets) : Option Octets :=
  if name.isEmpty then st.get? "HOME".toList
  else (st.accounts.lookup (Octets.toText name)).map Octets.ofText

/-- The unquoted text in front up to a slash, if that or the end of the word follows; with
`colons`, a colon counts as a slash. -/
def userName? (colons : Bool) : Word → Option (Octets × Word)
  | [] => some ([], [])
  | .text [c] false :: r =>
    if c = '/' ∨ (colons ∧ c = ':') then some ([], .text [c] false :: r)
    else (userName? colons r).map fun (name, r) => (c :: name, r)
  | _ => none

def withHome (st : State) (colons : Bool) (w : Word) : Word :=
  match w with
  | .text ['~'] false :: r =>
    match userName? colons r with
    | none => w
    | some (name, r) =>
      match home? st name with
      | none => w
      | some [] => r
      | some home => .text home true :: r
  | w => w

/-- The value of an assignment with home directories in the places of tildes, in front and after
colons. -/
def withHomes (st : State) (w : Word) : Word :=
  ((pieces w).map (withHome st true)).flatten
where
  /-- The parts up to and with each colon. -/
  pieces : Word → List Word
    | [] => [[]]
    | .text [':'] false :: r => [.text [':'] false] :: pieces r
    | p :: r => (pieces r).modifyHead (p :: ·)

end Word

namespace State

def separators (st : State) : Octets := (st.get? "IFS".toList).getD [' ', '\t', '\n']

def argumentSeparator (st : State) (name : Octets) (splits quoted : Bool) : Octets :=
  if !splits || (quoted && name == ['*']) then st.separators.take 1
  else if quoted || (st.get? "IFS".toList).isSome then ['\x00']
  else [' ']

def value? (st : State) (name : Octets) (splits quoted : Bool) : Option Octets :=
  if name == ['@'] || name == ['*'] then
    some ((st.argumentSeparator name splits quoted).intercalate st.args)
  else st.param? name

def segment (st : State) (name : Octets) (quoted : Bool) (value : Octets) : Segment :=
  if !quoted then .loose value
  else if name == ['@'] && !st.args.isEmpty then .arguments value
  else .fixed value

def segments (capture : Capture) : (budget : Nat) → (splits : Bool) → Word → Action (List Segment)
  | 0, _, _ => return []
  | _, _, [] => return []
  | n + 1, splits, p :: r => do
    let here ← match p with
      | .text s true => pure [if s.isEmpty then Segment.mark else .fixed s]
      | .text s false => pure (if s.isEmpty then [] else [.plain s])
      | .arithmetic e quoted => do
        let v ← Arithmetic.eval (Segment.text (← segments capture n false e))
        pure [if quoted then .fixed (Octets.ofInt v) else .loose (Octets.ofInt v)]
      | .output body quoted => do
        let printed ← modifyGet fun st => (capture body st).swap
        let text := (printed.reverse.dropWhile (· = '\n')).reverse
        pure [if quoted then .fixed text else .loose text]
      | .param name treatment other quoted => do
        let st ← get
        let isShown := match treatment with
          | .length | .ifSet _ => false
          | _ => true
        let value := st.value? name (splits && isShown) quoted
        let present (colon : Bool) : Bool :=
          match value with
          | none => false
          | some v => !(colon && v.isEmpty)
        let unset : Octets := name ++ ": parameter not set".toList
        let needed : Action Unit :=
          if value.isNone && st.has .refusesUnset then throw unset else pure ()
        let whole : List Segment := [value.elim (.fixed []) (st.segment name quoted)]
        let other := if quoted then other else Word.withHome st false other
        match treatment with
        | .invalid => throw "Bad substitution".toList
        | .value => do
          needed
          pure whole
        | .length => do
          needed
          pure [st.segment name quoted (Octets.ofNat (value.getD []).length)]
        | .orElse colon =>
          if present colon then pure whole
          else pure (Segment.inValue quoted (← segments capture n splits other))
        | .ifSet colon =>
          if present colon then
            pure (Segment.inValue quoted (← segments capture n splits other))
          else pure [st.segment name quoted []]
        | .orAssign colon =>
          if present colon then pure whole
          else do
            let text := Segment.text (← segments capture n false other)
            setVariable name text
            pure [st.segment name quoted text]
        | .orFail colon =>
          if present colon then pure whole
          else do
            let message := Segment.text (← segments capture n false other)
            throw (if message.isEmpty then unset ++ (if colon then " or null".toList else [])
              else name ++ ": ".toList ++ message)
        | .trim atEnd longest => do
          needed
          match value with
          | none => pure whole
          | some value =>
            let pattern : Pattern := (← segments capture n false other).flatMap Segment.glyphs
            pure [st.segment name quoted
              (if atEnd then pattern.dropBack longest value
                else pattern.dropFront longest value)]
    return here ++ (← segments capture n splits r)

def wordBudget : Nat := 10000000

def expand (capture : Capture) (w : Word) : Action (List Octets) := do
  let segments ← segments capture wordBudget true (Word.withHome (← get) false w)
  let st ← get
  let fields := Segment.fields st.separators segments
  return if st.has .keepsPatterns then fields.map Pattern.text
    else (fields.map (Pattern.paths st.files)).flatten

def expandAll (capture : Capture) (words : List Word) : Action (List Octets) := do
  return (← words.mapM (expand capture)).flatten

def expandGlyphs (capture : Capture) (w : Word) : Action Pattern := do
  let segments ← segments capture wordBudget false (Word.withHome (← get) false w)
  return segments.flatMap Segment.glyphs

def expandOne (capture : Capture) (w : Word) : Action Octets := do
  return (← expandGlyphs capture w).text

def expandDocument (capture : Capture) (w : Word) : Action Octets := do
  return Segment.text (← segments capture wordBudget false w)

def expandValue (capture : Capture) (w : Word) : Action Octets := do
  return Segment.text (← segments capture wordBudget false (Word.withHomes (← get) w))

end State

end LineShell.Posix

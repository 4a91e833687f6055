import LineShell.Posix.Source

namespace LineShell.Posix.Reader

/-- What a run of word parts stands in, which says where it ends. -/
inductive Context where
  | plain
  | quotes (inBraces : Bool)
  | braces (quoted : Bool)
  | arithmetic (depth : Nat)
  | document
deriving DecidableEq

namespace Context

def missing (inDocument : Bool) : Context → String
  | .plain => "Unterminated quoted string"
  | .quotes _ | .braces true =>
    if inDocument then "Missing '\x7d'" else "Unterminated quoted string"
  | .braces false => "Missing '\x7d'"
  | .arithmetic _ => "Missing '))'"
  | .document => "end of file unexpected"

def quoted : Context → Bool
  | .plain => false
  | .braces quoted => quoted
  | _ => true

def escapes (context : Context) (c : Char) : Bool :=
  !context.quoted || c == '$' || c == '\\' || c == '\x60' ||
    (c == '"' && context ≠ .document) ||
    c == '\x7d' && match context with
      | .quotes inBraces => inBraces
      | .braces _ => true
      | _ => false

def takesApostrophes : Context → Bool
  | .plain | .braces false => true
  | _ => false

def inner (context : Context) (treatment : Treatment) : Context :=
  .braces (context.quoted && !treatment.takesPattern)

end Context

def isMeta (c : Char) : Bool :=
  c == ' ' || c == '\t' || c == '\n' || c == ';' || c == '&' || c == '|' || c == '<' ||
    c == '>' || c == '(' || c == ')'

def isSpecialParam (c : Char) : Bool :=
  c == '@' || c == '*' || c == '#' || c == '?' || c == '$' || c == '!' || c == '-' || c.isDigit

def endless {α : Type} (context : Context) : Reader α := do
  fail (context.missing (← get).document.isSome)

def apostrophes : (budget : Nat) → Reader Octets
  | 0 => return []
  | n + 1 => do
    match ← peek with
    | none => endless (.quotes false)
    | some c =>
      skip
      if c = '\'' then return []
      if c = '\n' then countLine
      return c :: (← apostrophes n)

/-- A script between backquotes, up to the closing one; `quoted` says that it stands in quotes. -/
def backquoted (quoted : Bool) : (budget : Nat) → Reader Octets
  | 0 => return []
  | n + 1 => do
    match ← peek with
    | none => fail "EOF in backquote substitution"
    | some c =>
      skip
      if c = '\x60' then return []
      if c = '\n' then countLine
      if c = '\\' then
        match ← peek with
        | none => return '\\' :: (← backquoted quoted n)
        | some '\n' =>
          skip
          countLine
          backquoted quoted n
        | some d =>
          skip
          let isFree := d = '\\' ∨ d = '$' ∨ d = '\x60' ∨ (quoted ∧ d = '"')
          return (if isFree then [d] else ['\\', d]) ++ (← backquoted quoted n)
      else return c :: (← backquoted quoted n)

/-- The operator after a parameter's name in braces, and whether it is the closing brace. -/
def treatment : Reader (Treatment × Bool) := do
  let simple (colon : Bool) (c : Char) : Option Treatment :=
    match c with
    | '-' => some (.orElse colon)
    | '=' => some (.orAssign colon)
    | '+' => some (.ifSet colon)
    | '?' => some (.orFail colon)
    | '\x7d' => some .value
    | _ => none
  match ← peekJoined with
  | none => return (.invalid, false)
  | some c =>
    skip
    match c with
    | ':' =>
      match ← peekJoined with
      | none => return (.invalid, false)
      | some c =>
        skip
        return ((simple true c).getD .invalid, false)
    | '%' => return (.trim true (← accept '%'), false)
    | '#' => return (.trim false (← accept '#'), false)
    | c => return ((simple false c).getD .invalid, c = '\x7d')

/-- The parameter in braces and what is made of it, and whether the braces are closed after
that. -/
def inBraces (budget : Nat) : Reader (Octets × Treatment × Bool) := do
  /- The name of a variable or the number of an argument. -/
  let name : Reader Octets := do
    if (← peekJoined).any Char.isDigit then takeWhile Char.isDigit budget
    else takeWhile Octets.isNameChar budget
  match ← peekJoined with
  | none => return ([], .invalid, false)
  | some c =>
    if Octets.isNameChar c then
      let name ← name
      let (t, closed) ← treatment
      return (name, t, closed)
    else if c = '\x7d' then return ([], .invalid, false)
    else
      skip
      let withName (c : Char) : Reader (Octets × Treatment × Bool) := do
        let (t, closed) ← treatment
        return ([c], t, closed)
      if c ≠ '#' then
        if isSpecialParam c then withName c else return ([], .invalid, false)
      else
        match ← peekJoined with
        | none => withName '#'
        | some d =>
          if Octets.isNameChar d then
            let name ← name
            return (name, if (← peekJoined) = some '\x7d' then .length else .invalid, false)
          else
            let before ← get
            skip
            if d ≠ '\x7d' ∧ (← peekJoined) = some '\x7d' then
              return if isSpecialParam d then ([d], .length, false) else ([], .invalid, false)
            else
              set before
              withName '#'

def mark (quotes : Option Char) : (budget : Nat) → Reader (Octets × Bool)
  | 0 => return ([], false)
  | n + 1 => do
    let taken (s : Octets) (quoted : Bool) (quotes : Option Char) : Reader (Octets × Bool) := do
      if (← peek) = some '\n' then countLine
      skip
      let (rest, q) ← mark quotes n
      return (s ++ rest, quoted || q)
    match quotes, ← peek with
    | none, none => return ([], false)
    | some _, none => endless (.quotes false)
    | none, some c =>
      if isMeta c then return ([], false)
      else if c = '\'' ∨ c = '"' then taken [] true (some c)
      else if c = '\\' then
        skip
        match ← peek with
        | none => return (['\\'], false)
        | some '\n' => taken [] false none
        | some c => taken [c] true none
      else taken [c] false none
    | some q, some c =>
      if c = q then taken [] true none
      else if c = '\\' ∧ q = '"' then
        skip
        match ← peek with
        | none => return (['\\'], true)
        | some c =>
          taken (if (Context.quotes false).escapes c then [c] else ['\\', c]) true (some q)
      else taken [c] true (some q)

def outputOp : Reader RedirectOp := do
  let taken (op : RedirectOp) : Reader RedirectOp := do
    skip
    return op
  match ← peekJoined with
  | some '>' => taken .append
  | some '|' => taken .replace
  | some '&' => taken .duplicate
  | _ => return .output

def inputOp : Reader RedirectOp := do
  match ← peekJoined with
  | some '<' =>
    skip
    return .document (← accept '-')
  | some '&' =>
    skip
    return .duplicate
  | some '>' =>
    skip
    return .inOut
  | _ => return .input

def startsRedirect : Reader Bool := do
  let before ← get
  let digit := (← peekJoined).any Char.isDigit
  skip
  let sign := (← peekJoined).any fun c => c == '<' || c == '>'
  set before
  return digit && sign

def verbatim : (budget : Nat) → Reader Octets
  | 0 => return []
  | n + 1 => do
    match ← peek with
    | none => return []
    | some c =>
      skip
      if c = '\n' then
        countLine
        lineBegun n
      return c :: (← verbatim n)

def nothing : Expecting := ⟨false, false, false⟩

def start : Expecting := ⟨true, true, false⟩

def laterStart : Expecting := ⟨true, true, true⟩

def laterKeyword : Expecting := ⟨true, false, true⟩

structure Gathered where
  assignments : List (Octets × Word)
  words : List Word
  redirects : List (Redirect Word)

def join : Option Cmd → Cmd → Cmd
  | none, c => c
  | some c, d => .seq c d

mutual

def parts : (budget : Nat) → Context → Reader Word
  | 0, context => endless context
  | n + 1, context => do
    let quoted := context.quoted
    let more (p : Part) : Reader Word := do return p :: (← parts n context)
    if context = .plain ∧ (← get).isAtInsertionEnd then return []
    match ← peek with
    | none =>
      if context = .plain ∨ context = .document then return []
      endless context
    | some c =>
      if context = .plain ∧ isMeta c then return []
      skip
      match context, c with
      | .quotes _, '"' => return []
      | .braces .., '\x7d' => return []
      | .arithmetic 0, ')' =>
        if ← accept ')' then return [] else more (.text [')'] true)
      | .arithmetic (d + 1), ')' => return .text [')'] true :: (← parts n (.arithmetic d))
      | .arithmetic d, '(' => return .text ['('] true :: (← parts n (.arithmetic (d + 1)))
      | _, '\n' =>
        countLine
        lineBegun n
        more (.text ['\n'] quoted)
      | _, '\\' =>
        match ← peek with
        | none => more (.text ['\\'] true)
        | some '\n' =>
          skip
          countLine
          parts n context
        | some d =>
          skip
          more (.text (if context.escapes d then [d] else ['\\', d]) true)
      | .document, '"' | .arithmetic _, '"' => more (.text ['"'] true)
      | _, '"' =>
        let inBraces := match context with
          | .braces .. => true
          | _ => false
        let inner ← parts n (.quotes inBraces)
        /- Even empty quotes make a field, unless they hold all the arguments alone. -/
        let field : Word := match inner with
          | [.param ['@'] .value _ _] => inner
          | inner => .text [] true :: inner ++ [.text [] true]
        return field ++ (← parts n context)
      | _, '\'' =>
        if context.takesApostrophes then more (.text (← apostrophes n) true)
        else more (.text ['\''] true)
      | _, '$' =>
        match ← peekJoined with
        | some '(' =>
          skip
          if ← accept '(' then more (.arithmetic (← parts n (.arithmetic 0)) quoted)
          else
            let outer ← get
            set { outer with awaited := [], document := none }
            let body ← list n true none
            match ← token n nothing with
            | .op ")" =>
              modify fun r => { r with awaited := outer.awaited, document := outer.document }
              more (.output body quoted)
            | t => unexpected t (some (Token.quote ")"))
        | some '\x7b' =>
          skip
          let (name, treatment, closed) ← inBraces n
          let other ← if closed then pure [] else parts n (context.inner treatment)
          more (.param name treatment other quoted)
        | some d =>
          if Octets.isNameStart d then
            more (.param (← takeWhile Octets.isNameChar n) .value [] quoted)
          else if isSpecialParam d then
            skip
            more (.param [d] .value [] quoted)
          else more (.text ['$'] quoted)
        | none => more (.text ['$'] quoted)
      | _, '\x60' =>
        let script ← backquoted quoted n
        let outer ← get
        set { outer with
          inserted := [], text := script, line := 1, awaited := [], document := none
          outside := some (outer.outside.getD outer.text.length)
          within := outer.inserted.map Insertion.name ++ outer.within }
        let body ← list n true none
        modify fun r => { outer with begun := r.begun, found := r.found }
        more (.output body quoted)
      | _, c => more (.text [c] quoted)
termination_by structural n => n

def documents : (budget : Nat) → Reader Unit
  | 0 => return
  | n + 1 => do
    match (← get).awaited with
    | [] => return
    | d :: ds =>
      let outer := (← get).document
      modify fun r => { r with awaited := ds, document := some d }
      lineBegun n
      let text ← if d.expands then parts n .document else do pure [.text (← verbatim n) true]
      modify fun r =>
        { r with document := outer, isEnded := false, found := (d.number, text) :: r.found }
      documents n
termination_by structural n => n

def lexeme : (budget : Nat) → Reader Token
  | 0 => return .scriptEnd
  | n + 1 => do
    let either (c : Char) (one two : String) : Reader Token := do
      skip
      return .op (if ← accept c then two else one)
    match ← peekJoined with
    | none => return .scriptEnd
    | some c =>
      match c with
      | ' ' | '\t' =>
        skip
        lexeme n
      | '#' =>
        modify fun r => { r with text := r.text.dropWhile (· ≠ '\n'), inserted := [] }
        lexeme n
      | '\n' =>
        skip
        countLine
        return .lineEnd
      | '&' => either '&' "&" "&&"
      | '|' => either '|' "|" "||"
      | ';' => either ';' ";" ";;"
      | '(' | ')' =>
        skip
        return .op c.toString
      | _ =>
        let w ← parts n .plain
        let descriptor? : Option (Option Nat) :=
          match w with
          | [] => some none
          | [.text [d] false] => if d.isDigit then some (some (d.toNat - 48)) else none
          | _ => none
        match descriptor?, ← peek with
        | some d, some '>' =>
          skip
          return .redirect (d.getD 1) (← outputOp)
        | some d, some '<' =>
          skip
          return .redirect (d.getD 0) (← inputOp)
        | _, _ => return .word w
termination_by structural n => n

def token : (budget : Nat) → Expecting → Reader Token
  | 0, _ => return .scriptEnd
  | n + 1, e => do
    let t ← match (← get).ahead with
      | some t => do
        modify fun r => { r with ahead := none }
        pure t
      | none => lexeme n
    match t with
    | .lineEnd =>
      if e.lineEnds then
        documents n
        token n e
      else return t
    | .word w =>
      let aliases := e.aliases || (← get).aliasNext
      modify fun r => { r with aliasNext := false }
      match Word.plainText? w with
      | none => return t
      | some name =>
        if e.keywords ∧ keywords.contains (String.ofList name) then
          return .keyword (String.ofList name)
        else if aliases then
          match (← get).aliasText? name with
          | none => return t
          | some text =>
            modify fun r => r.insert name text
            token n ⟨e.keywords, true, e.lineEnds⟩
        else return t
    | t => return t
termination_by structural n => n

def redirectTarget : (budget : Nat) → RedirectOp → Reader Word
  | 0, _ => return []
  | n + 1, op => do
    match op with
    | .document indented =>
      let _ ← takeWhile (fun c => c == ' ' || c == '\t') n
      if (← startsRedirect) || (← peekJoined).all fun c => isMeta c || c == '#' then
        unexpected (← token n nothing) none
      else
        let (mark, isQuoted) ← mark none n
        let number := (← get).begun
        let document : Document := ⟨number, mark, !isQuoted, indented⟩
        modify fun r => { r with awaited := r.awaited ++ [document], begun := number + 1 }
        return ((← get).known.lookup number).getD []
    | _ =>
      match ← token n nothing with
      | .word w => return w
      | t => unexpected t none
termination_by structural n => n

def redirections : (budget : Nat) → Expecting → Reader (List (Redirect Word))
  | 0, _ => return []
  | n + 1, e => do
    match ← token n e with
    | .redirect descriptor op =>
      let target ← redirectTarget n op
      return ⟨descriptor, op, target⟩ :: (← redirections n nothing)
    | t =>
      putBack t
      return []
termination_by structural n => n

/-- A simple command that starts on the given line, or the definition of a function. -/
def simple : (budget : Nat) → (line : Nat) → Gathered → Reader Cmd
  | 0, line, g => return .simple line g.assignments g.words g.redirects
  | n + 1, line, g => do
    match ← token n ⟨false, g.words.isEmpty, false⟩ with
    | .word w =>
      match if g.words.isEmpty then w.assignment? else none with
      | some a => simple n line { g with assignments := g.assignments ++ [a] }
      | none => simple n line { g with words := g.words ++ [w] }
    | .redirect descriptor op =>
      let target ← redirectTarget n op
      simple n line { g with redirects := g.redirects ++ [⟨descriptor, op, target⟩] }
    | t =>
      match t, g with
      | .op "(", ⟨[], [w], []⟩ =>
        match ← token n nothing with
        | .op ")" =>
          match Word.plainText? w with
          | some (c :: name) =>
            if Octets.isNameStart c && name.all Octets.isNameChar && !isSpecial (c :: name) then
              return .define (c :: name) (← command n laterStart)
            else fail "Bad function name"
          | _ => fail "Bad function name"
        | t => unexpected t (some (Token.quote ")"))
      | t, g =>
        putBack t
        return .simple line g.assignments g.words g.redirects
termination_by structural n => n

def forWords : (budget : Nat) → Reader (List Word)
  | 0 => return []
  | n + 1 => do
    match ← token n nothing with
    | .word w => return w :: (← forWords n)
    | .lineEnd | .op ";" => return []
    | t => unexpected t none
termination_by structural n => n

/-- The patterns of a branch, from a first token on up to and with the closing bracket. -/
def patterns : (budget : Nat) → (first : Token) → Reader (List Word)
  | 0, _ => return []
  | n + 1, first => do
    match ← token n nothing with
    | .op "|" => return first.toWord :: (← patterns n (← token n nothing))
    | .op ")" => return [first.toWord]
    | t => unexpected t (some (Token.quote ")"))
termination_by structural n => n

def branches : (budget : Nat) → Reader (List (List Word × Option Cmd))
  | 0 => return []
  | n + 1 => do
    let t ← token n laterKeyword
    if t.isKeyword "esac" then return []
    let first ← if t.isOp "(" then token n nothing else pure t
    let patterns ← patterns n first
    let body ← list n true none
    let t ← token n laterKeyword
    if t.isKeyword "esac" then return [(patterns, body)]
    else if t.isOp ";;" then return (patterns, body) :: (← branches n)
    else unexpected t (some (Token.quote ";;"))
termination_by structural n => n

def conditional : (budget : Nat) → Reader Cmd
  | 0 => fail "if"
  | n + 1 => do
    let condition ← list n false none
    let t ← token n nothing
    if !t.isKeyword "then" then unexpected t (some (Token.quote "then"))
    let yes ← list n false none
    match ← token n nothing with
    | .keyword "elif" => return .branch condition yes (some (← conditional n))
    | .keyword "else" => return .branch condition yes (← list n false none)
    | t =>
      putBack t
      return .branch condition yes none
termination_by structural n => n

def command : (budget : Nat) → Expecting → Reader Cmd
  | 0, _ => fail "command"
  | n + 1, e => do
    let line := (← get).line
    let close (k : String) (c : Cmd) : Reader Cmd := do
      let t ← token n nothing
      if t.isKeyword k || t.isOp k then return c
      else unexpected t (some (Token.quote k))
    /- A compound command takes the redirections after it. -/
    let compound (c : Cmd) : Reader Cmd := do
      match ← redirections n start with
      | [] => return c
      | redirects => return .redirected line c redirects
    let loop (sought : Bool) : Reader Cmd := do
      let condition ← list n false none
      let t ← token n nothing
      if !t.isKeyword "do" then unexpected t (some (Token.quote "do"))
      return .loop sought condition (← list n false none)
    match ← token n e with
    | .keyword "if" => compound (← close "fi" (← conditional n))
    | .keyword "while" => compound (← close "done" (← loop true))
    | .keyword "until" => compound (← close "done" (← loop false))
    | .keyword "for" =>
      let name ← match ← token n nothing with
        | .word w =>
          match Word.plainText? w with
          | some (c :: name) =>
            if Octets.isNameStart c && name.all Octets.isNameChar then pure (c :: name)
            else fail "Bad for loop variable"
          | _ => fail "Bad for loop variable"
        | _ => fail "Bad for loop variable"
      let words ← match ← token n laterStart with
        | .keyword "in" => do pure (some (← forWords n))
        | .op ";" => pure none
        | t => do
          putBack t
          pure none
      let t ← token n laterStart
      if !t.isKeyword "do" then unexpected t (some (Token.quote "do"))
      let body ← list n false none
      compound (← close "done" (.each line name words body))
    | .keyword "case" =>
      match ← token n nothing with
      | .word w =>
        let t ← token n laterStart
        if !t.isKeyword "in" then unexpected t (some (Token.quote "in"))
        compound (.choose line w (← branches n))
      | t => unexpected t (some "word")
    | .op "(" => compound (← close ")" (.subshell line (← list n false none)))
    | .keyword "\x7b" =>
      let body ← list n false none
      match ← close "\x7d" (body.getD (.simple line [] [] [])) with
      /- Braces around nothing but a subshell are not there, so that the last redirections count. -/
      | .redirected line (.subshell first body) inside =>
        let outside ← redirections n Reader.start
        return .redirected line (.subshell first body) (if outside.isEmpty then inside else outside)
      | c => compound c
    | .word w =>
      putBack (.word w)
      simple n (← get).line ⟨[], [], []⟩
    | .redirect descriptor op =>
      putBack (.redirect descriptor op)
      simple n (← get).line ⟨[], [], []⟩
    | t => unexpected t none
termination_by structural n => n

def bars : (budget : Nat) → (first : Cmd) → Reader Cmd
  | 0, first => return first
  | n + 1, first => do
    match ← token n nothing with
    | .op "|" => return .pipe first (← bars n (← command n laterStart))
    | t =>
      putBack t
      return first
termination_by structural n => n

def pipeline : (budget : Nat) → Expecting → Reader Cmd
  | 0, _ => fail "pipeline"
  | n + 1, e => do
    let t ← token n e
    if t.isKeyword "!" then return .negate (← bars n (← command n start))
    putBack t
    bars n (← command n nothing)
termination_by structural n => n

/-- The pipelines that are joined to a first one by the two conditional operators, which group to
the left. -/
def conditionals : (budget : Nat) → (first : Cmd) → Reader Cmd
  | 0, first => return first
  | n + 1, first => do
    match ← token n nothing with
    | .op "&&" => conditionals n (.both first (← pipeline n laterStart))
    | .op "||" => conditionals n (.either first (← pipeline n laterStart))
    | t =>
      putBack t
      return first
termination_by structural n => n

/-- Commands over several lines, up to a token that ends the list. Unless the list may be empty,
the first command has to be there. -/
def list : (budget : Nat) → (mayEnd : Bool) → (sofar : Option Cmd) → Reader (Option Cmd)
  | 0, _, sofar => return sofar
  | n + 1, mayEnd, sofar => do
    let t ← token n laterStart
    putBack t
    if t matches .scriptEnd then
      documents n
      return sofar
    if mayEnd && t.endsList then return sofar
    let c ← conditionals n (← pipeline n nothing)
    match ← token n nothing with
    | .op "&" => list n true (some (join sofar (.background c)))
    | .op ";" => list n true (some (join sofar c))
    | .lineEnd =>
      putBack .lineEnd
      list n true (some (join sofar c))
    | t =>
      putBack t
      return some (join sofar c)
termination_by structural n => n

end

def commandLine : (budget : Nat) → (sofar : Option Cmd) → Reader (Option Cmd)
  | 0, sofar => return sofar
  | n + 1, sofar => do
    match ← token n start with
    | .lineEnd | .scriptEnd =>
      documents n
      return sofar
    | t =>
      putBack t
      let c ← conditionals n (← pipeline n nothing)
      match ← token n nothing with
      | .op "&" => commandLine n (some (join sofar (.background c)))
      | .op ";" => commandLine n (some (join sofar c))
      | .lineEnd | .scriptEnd =>
        documents n
        return some (join sofar c)
      | t => unexpected t none

def word? (text : Octets) : Option Word :=
  let begun : Reading :=
    { Source.ofText text with
      aliases := [], within := [], ahead := none, aliasNext := false, awaited := [],
      begun := 0, found := [], known := [], document := none, isEnded := false, outside := none }
  match (parts (text.length + 1000) .document).run begun with
  | .ok (w, _) => some w
  | .error _ => none

inductive Step where
  | finished
  /-- A line, perhaps without a command, and what follows it. -/
  | command (c : Option Cmd) (rest : Source)
  | mistake (m : Mistake)

def isFinished (n : Nat) : Reader Bool := do
  return (← lexeme n) matches .scriptEnd

/-- Reads the first commands of a script, up to the end of a line. A document is known only after
the line, so that a line with documents is read twice. -/
def read (aliases : List (Octets × Octets)) (script : Source) : Step :=
  let budget := 16 * (script.text.length + 1) + 100000
  let begun (known : List (Nat × Word)) : Reading :=
    { script with
      aliases := aliases, within := [], ahead := none, aliasNext := false, awaited := [],
      begun := 0, found := [], known := known, document := none, isEnded := false, outside := none }
  match (isFinished budget).run (begun []) with
  | .ok (true, _) => .finished
  | _ =>
    match (commandLine budget none).run (begun []) with
    | .error m => .mistake m
    | .ok (c, r) =>
      if r.found.isEmpty then .command c r.toSource
      else
        match (commandLine budget none).run (begun r.found) with
        | .error m => .mistake m
        | .ok (c, r) => .command c r.toSource

end LineShell.Posix.Reader

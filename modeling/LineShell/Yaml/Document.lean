import LineShell.Yaml.Building
import LineShell.Yaml.Lexer
import LineShell.Yaml.Source

namespace LineShell.Yaml

def usualHandles : List (String × String) := [("!", "!"), ("!!", Tag.commonPart)]

/-- Reads directives: the handles that they declare, the usual ones after them. `versioned` says
that a version was given before. -/
def readDirectives (versioned : Bool) (handles : List (String × String)) :
    List Token → Reads (List (String × String) × List Token)
  | .directive (.version major) :: r => do
    require (!versioned && major == 1)
    readDirectives true handles r
  | .directive (.handle name meaning) :: r => do
    require (handles.lookup name).isNone
    readDirectives versioned ((name, meaning) :: handles) r
  | .directive .other :: r => readDirectives versioned handles r
  | ts => .ok (handles ++ usualHandles, ts)

def readRoot (depth : Nat) (handles : List (String × String)) (ts : List Token) :
    Reads (Nat × Reading) :=
  Node.read handles .block (3 * ts.length + 3) (.ofTokens depth ts)

def readAnnounced (depth : Nat) (ts : List Token) : Reads (Nat × Reading) := do
  let (handles, ts) ← readDirectives false [] ts
  match ts with
  | .documentStart :: r =>
    match r with
    | .directive _ :: _ | .documentStart :: _ | .documentEnd :: _ | .streamEnd :: _ =>
      return (Reading.ofTokens depth r).add Node.empty
    | _ => readRoot depth handles r
  | _ => Reading.unexpected (.ofTokens depth ts)

def readEnd : List Token → Reads Unit
  | .streamEnd :: _ => .ok ()
  | .documentEnd :: r => readEnd r
  | ts => Reading.unexpected (.ofTokens 0 ts)

def valueOfTokens (depth : Nat) (ts : List Token) : Reads Value :=
  match ts with
  | .streamEnd :: _ => .ok .null
  | _ => do
    let (root, s) ←
      match ts with
      | .directive _ :: _ | .documentStart :: _ => readAnnounced depth ts
      | _ => readRoot depth usualHandles ts
    readEnd s.tokens
    s.nodes.value root

/-- The value of the document in a text that is or is not `whole`, with at most `depth` collections
inside one another. -/
def read (depth : Nat) (whole : Bool) (text : List Char) : Reads Value :=
  valueOfTokens depth (tokens (source whole text))

end LineShell.Yaml

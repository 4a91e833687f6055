import LineShell.Yaml.Tag
import LineShell.Yaml.Token

namespace LineShell.Yaml

inductive Content where
  | scalar (text : List Char)
  | sequence (items : List Nat)
  | mapping (pairs : List (Nat × Nat))
deriving Repr, DecidableEq

structure Node where
  tag : Tag
  content : Content
deriving Repr, DecidableEq

def Node.empty : Node := ⟨.null, .scalar []⟩

abbrev Graph := Array Node

def Graph.node (g : Graph) (i : Nat) : Node := g.getD i Node.empty

def Graph.pairs (g : Graph) (i : Nat) : List (Nat × Nat) :=
  match (g.node i).content with
  | .mapping pairs => pairs
  | _ => []

def Graph.withContent (g : Graph) (i : Nat) (c : Content) : Graph :=
  g.setIfInBounds i { g.node i with content := c }

def Graph.withTag (g : Graph) (i : Nat) (t : Tag) : Graph :=
  g.setIfInBounds i { g.node i with tag := t }

/-- Where reading nodes has come to: the tokens left, the numbers of the nodes that have names, the
nodes read so far, and how many collections may still be begun inside those that are open. -/
structure Reading where
  tokens : List Token
  named : List (String × Nat)
  nodes : Graph
  depth : Nat

namespace Reading

def ofTokens (depth : Nat) (ts : List Token) : Reading := ⟨ts, [], #[], depth⟩

def rest (s : Reading) : Reading := { s with tokens := s.tokens.drop 1 }

def add (n : Node) (s : Reading) : Nat × Reading :=
  (s.nodes.size, { s with nodes := s.nodes.push n })

def fill (i : Nat) (c : Content) (s : Reading) : Reading :=
  { s with nodes := s.nodes.withContent i c }

def name (i : Nat) (anchor : Option String) (s : Reading) : Reading :=
  match anchor with
  | none => s
  | some a => { s with named := (a, i) :: s.named }

def inside {α : Type} (s : Reading) (read : Reading → Reads (α × Reading)) :
    Reads (α × Reading) :=
  match s.depth with
  | 0 => .error (.fault .tooDeep)
  | d + 1 => do
    let (a, t) ← read { s with depth := d }
    return (a, { t with depth := d + 1 })

def unexpected {α : Type} (s : Reading) : Reads α :=
  match s.tokens with
  | .broken f :: _ => .error f
  | _ => malformed

end Reading

structure Properties where
  anchor : Option String
  /-- The full name of the tag. -/
  tag : Option String

namespace Properties

def fullName (handles : List (String × String)) (handle : Option String) (suffix : String) :
    Reads String :=
  match handle with
  | none => .ok suffix
  | some h =>
    match handles.lookup h with
    | some meaning => .ok (meaning ++ suffix)
    | none => malformed

def read (handles : List (String × String)) (s : Reading) : Reads (Properties × Reading) := do
  match s.tokens with
  | .anchor a :: .tag h t :: r => return (⟨some a, ← fullName handles h t⟩, { s with tokens := r })
  | .tag h t :: .anchor a :: r => return (⟨some a, ← fullName handles h t⟩, { s with tokens := r })
  | .anchor a :: r => return (⟨some a, none⟩, { s with tokens := r })
  | .tag h t :: r => return (⟨none, ← fullName handles h t⟩, { s with tokens := r })
  | _ => return (⟨none, none⟩, s)

def isEmpty (p : Properties) : Bool := p.anchor.isNone && p.tag.isNone

end Properties

inductive Position where
  /-- Inside brackets. -/
  | flow
  | block
  /-- In a block mapping, where a sequence need not be deeper. -/
  | inMapping
deriving Repr, DecidableEq

namespace Node

/-- Whether a node of a block is left out before this token. `inSequence` says that only the marks
of a sequence end it. -/
def leftOut (inSequence : Bool) : List Token → Bool
  | .blockEnd :: _ => true
  | .blockEntry :: _ => inSequence
  | .key :: _ | .value :: _ => !inSequence
  | _ => false

def leftOutInFlow : List Token → Bool
  | .flowEntry :: _ | .flowSequenceEnd :: _ | .flowMappingEnd :: _ => true
  | _ => false

mutual

def read (handles : List (String × String)) (position : Position) :
    (budget : Nat) → Reading → Reads (Nat × Reading)
  | 0, s => s.unexpected
  | n + 1, s => do
    match s.tokens with
    | .reference name :: _ =>
      match s.named.lookup name with
      | some i => return (i, s.rest)
      | none => malformed
    | _ =>
      let (p, s) ← Properties.read handles s
      let sequence (s : Reading) (items : Reading → Reads (List Nat × Reading)) :
          Reads (Nat × Reading) := do
        let tag := Tag.ofCollection p.tag .sequence
        let (i, s) := s.add ⟨tag, .sequence []⟩
        let (items, s) ← (s.name i p.anchor).inside items
        return (i, s.fill i (.sequence items))
      let mapping (s : Reading) (pairs : Reading → Reads (List (Nat × Nat) × Reading)) :
          Reads (Nat × Reading) := do
        let tag := Tag.ofCollection p.tag .mapping
        let (i, s) := s.add ⟨tag, .mapping []⟩
        let (pairs, s) ← (s.name i p.anchor).inside pairs
        return (i, s.fill i (.mapping pairs))
      let scalar (s : Reading) (plain : Bool) (text : List Char) : Reads (Nat × Reading) :=
        let (i, s) := s.add ⟨Tag.ofScalar p.tag plain text, .scalar text⟩
        return (i, s.name i p.anchor)
      let isNew := p.anchor.all fun a => (s.named.lookup a).isNone
      match s.tokens, position with
      | .blockEntry :: _, .inMapping => do
        require isNew
        sequence s (indentlessItems handles n)
      | .scalar text plain :: _, _ => do
        require isNew
        scalar s.rest plain text
      | .flowSequence :: _, _ => do
        require isNew
        sequence s.rest (flowItems handles true n)
      | .flowMapping :: _, _ => do
        require isNew
        mapping s.rest (flowPairs handles true n)
      | .blockSequence :: _, .block | .blockSequence :: _, .inMapping => do
        require isNew
        sequence s.rest (blockItems handles n)
      | .blockMapping :: _, .block | .blockMapping :: _, .inMapping => do
        require isNew
        mapping s.rest (blockPairs handles n)
      | _, _ =>
        if p.isEmpty then s.unexpected
        else do
          require isNew
          scalar s true []

def blockItems (handles : List (String × String)) :
    (budget : Nat) → Reading → Reads (List Nat × Reading)
  | 0, s => s.unexpected
  | n + 1, s => do
    match s.tokens with
    | .blockEntry :: _ =>
      let s := s.rest
      let (item, s) ←
        if leftOut true s.tokens then pure (s.add empty) else read handles .block n s
      let (items, s) ← blockItems handles n s
      return (item :: items, s)
    | .blockEnd :: _ => return ([], s.rest)
    | _ => s.unexpected

def indentlessItems (handles : List (String × String)) :
    (budget : Nat) → Reading → Reads (List Nat × Reading)
  | 0, s => s.unexpected
  | n + 1, s => do
    match s.tokens with
    | .blockEntry :: _ =>
      let s := s.rest
      let (item, s) ←
        if leftOut true s.tokens || leftOut false s.tokens then pure (s.add empty)
        else read handles .block n s
      let (items, s) ← indentlessItems handles n s
      return (item :: items, s)
    | _ => return ([], s)

def blockPairs (handles : List (String × String)) :
    (budget : Nat) → Reading → Reads (List (Nat × Nat) × Reading)
  | 0, s => s.unexpected
  | n + 1, s => do
    let side (s : Reading) : Reads (Nat × Reading) :=
      if leftOut false s.tokens then pure (s.add empty) else read handles .inMapping n s
    match s.tokens with
    | .key :: _ =>
      let (key, s) ← side s.rest
      let (value, s) ←
        match s.tokens with
        | .value :: _ => side s.rest
        | _ => pure (s.add empty)
      let (pairs, s) ← blockPairs handles n s
      return ((key, value) :: pairs, s)
    | .blockEnd :: _ => return ([], s.rest)
    | _ => s.unexpected

/-- Reads the items of a sequence in brackets and its end. A pair is a mapping of its own. -/
def flowItems (handles : List (String × String)) (first : Bool) :
    (budget : Nat) → Reading → Reads (List Nat × Reading)
  | 0, s => s.unexpected
  | n + 1, s => do
    match s.tokens with
    | .flowSequenceEnd :: _ => return ([], s.rest)
    | _ =>
      let s ←
        if first then pure s
        else match s.tokens with
          | .flowEntry :: _ => pure s.rest
          | _ => s.unexpected
      match s.tokens with
      | .flowSequenceEnd :: _ => return ([], s.rest)
      | .key :: _ =>
        let (pair, s) ← s.rest.inside (flowPair handles n)
        let (i, s) := s.add ⟨.mapping, .mapping [pair]⟩
        let (items, s) ← flowItems handles false n s
        return (i :: items, s)
      | _ =>
        let (item, s) ← read handles .flow n s
        let (items, s) ← flowItems handles false n s
        return (item :: items, s)

def flowPair (handles : List (String × String)) :
    (budget : Nat) → Reading → Reads ((Nat × Nat) × Reading)
  | 0, s => s.unexpected
  | n + 1, s => do
    let side (s : Reading) : Reads (Nat × Reading) :=
      if leftOutInFlow s.tokens then pure (s.add empty) else read handles .flow n s
    let (key, s) ←
      match s.tokens with
      | .value :: _ => pure (s.add empty)
      | _ => side s
    match s.tokens with
    | .value :: _ => do
      let (value, s) ← side s.rest
      return ((key, value), s)
    | _ =>
      let (value, s) := s.add empty
      return ((key, value), s)

/-- Reads the pairs of a mapping in brackets and its end. A node that is no pair has no value. -/
def flowPairs (handles : List (String × String)) (first : Bool) :
    (budget : Nat) → Reading → Reads (List (Nat × Nat) × Reading)
  | 0, s => s.unexpected
  | n + 1, s => do
    match s.tokens with
    | .flowMappingEnd :: _ => return ([], s.rest)
    | _ =>
      let s ←
        if first then pure s
        else match s.tokens with
          | .flowEntry :: _ => pure s.rest
          | _ => s.unexpected
      match s.tokens with
      | .flowMappingEnd :: _ => return ([], s.rest)
      | .key :: _ =>
        let (pair, s) ← flowPair handles n s.rest
        let (pairs, s) ← flowPairs handles false n s
        return (pair :: pairs, s)
      | _ =>
        let (key, s) ← read handles .flow n s
        let (value, s) := s.add empty
        let (pairs, s) ← flowPairs handles false n s
        return ((key, value) :: pairs, s)

end

end Node

end LineShell.Yaml

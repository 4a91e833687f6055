import LineShell.Value.Set
import LineShell.Yaml.Meaning
import LineShell.Yaml.Merge

namespace LineShell.Yaml

/-- What is built for a node: a value, or a collection that holds the numbers of nodes. -/
inductive Object where
  | value (v : Value)
  | list (items : List Nat)
  /-- A list of pairs in their order. -/
  | tuples (pairs : List (Nat × Nat))
  | mapping (pairs : List (Key × Nat))
  | set (pairs : List (Key × Nat))
deriving Repr

structure Building where
  nodes : Graph
  /-- What is built for each node. -/
  objects : Array (Option Object)
  /-- The collections whose nodes are still to be looked at, in order. -/
  waiting : List Nat

namespace Building

def ofNodes (g : Graph) : Building := ⟨g, Array.replicate g.size none, []⟩

def object (b : Building) (i : Nat) : Option Object := b.objects.getD i none

def put (b : Building) (i : Nat) (o : Object) : Building :=
  { b with objects := b.objects.setIfInBounds i (some o) }

def opened (b : Building) (i : Nat) (o : Object) : Building :=
  { b.put i o with waiting := b.waiting ++ [i] }

def begin (b : Building) (i : Nat) : Reads Building :=
  match b.object i with
  | some _ => .ok b
  | none =>
    match (b.nodes.node i).tag with
    | .sequence => .ok (b.opened i (.list []))
    | .orderedPairs | .pairs => .ok (b.opened i (.tuples []))
    | .mapping => .ok (b.opened i (.mapping []))
    | .set => .ok (b.opened i (.set []))
    | .merge | .content | .unknown => malformed
    | .null | .bool | .int | .float | .binary | .timestamp | .text => do
      return b.put i (.value (← b.nodes.scalar i))

def key (b : Building) (i : Nat) : Reads Key :=
  match b.object i with
  | some (.value v) => .ok ⟨v, if b.nodes.isCommonNaN i then none else some i⟩
  | _ => malformed

/-- Begins the objects of pairs: of each its key, which has to be one, then its value. -/
def beginPairs (b : Building) (pairs : List (Nat × Nat)) :
    Reads (Building × List (Key × Nat)) :=
  pairs.foldlM (fun (b, done) (k, v) => do
    let b ← b.begin k
    let key ← b.key k
    let b ← b.begin v
    return (b, Key.insert key v done)) (b, [])

def beginTuples (b : Building) (items : List Nat) :
    Reads (Building × List (Nat × Nat)) :=
  items.foldlM (fun (b, done) item =>
    match (b.nodes.node item).content with
    | .mapping [(k, v)] => do
      let b ← (← b.begin k).begin v
      return (b, done ++ [(k, v)])
    | _ => malformed) (b, [])

def fill (b : Building) (i : Nat) : Reads Building := do
  let node := b.nodes.node i
  let entries : Reads (Building × List (Key × Nat)) :=
    match node.content with
    | .mapping _ => do
      let nodes ← b.nodes.merge i
      { b with nodes }.beginPairs (nodes.pairs i)
    | _ => malformed
  match node.tag, node.content with
  | .sequence, .sequence items => return (← items.foldlM begin b).put i (.list items)
  | .orderedPairs, .sequence items | .pairs, .sequence items =>
    let (b, pairs) ← b.beginTuples items
    return b.put i (.tuples pairs)
  | .mapping, _ =>
    let (b, pairs) ← entries
    return b.put i (.mapping pairs)
  | .set, _ =>
    let (b, pairs) ← entries
    return b.put i (.set pairs)
  | _, _ => malformed

/-- Looks at all collections that wait. No node waits twice, so their number is enough of a
budget. -/
def run : (budget : Nat) → Building → Reads Building
  | 0, b => .ok b
  | n + 1, b =>
    match b.waiting with
    | [] => .ok b
    | i :: r => do
      let b ← { b with waiting := r }.fill i
      run n b

/-- The value of the object of a node. A collection around itself is not unfolded again; `path` are
the collections around this place. -/
def value (b : Building) : (budget : Nat) → (path : List Nat) → Nat → Value
  | 0, _, _ => .null
  | n + 1, path, i =>
    let around := path.contains i
    let inner : Nat → Value := b.value n (i :: path)
    match b.object i with
    | some (.value v) => v
    | some (.list items) => if around then .cycle false else .list (items.map inner)
    | some (.tuples pairs) =>
      if around then .cycle false
      else .list (pairs.map fun (k, v) => .tuple [inner k, inner v])
    | some (.mapping pairs) =>
      if around then .cycle true else .mapping (pairs.map fun (k, v) => (k.value, inner v))
    | some (.set pairs) => .set (Value.inSetOrder (pairs.map (·.1.value)))
    | none => .null

end Building

/-- The value of the document whose root is the node of a number. The values in a mapping at the
root stand for themselves, so each is unfolded from itself on. -/
def Graph.value (g : Graph) (root : Nat) : Reads Value := do
  let b ← (← (Building.ofNodes g).begin root).run (g.size + 1)
  let whole (i : Nat) : Value := b.value (g.size + 1) [] i
  match b.object root with
  | some (.mapping pairs) => return .mapping (pairs.map fun (k, v) => (k.value, whole v))
  | _ => return whole root

end LineShell.Yaml

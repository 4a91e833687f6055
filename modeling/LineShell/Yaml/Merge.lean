import LineShell.Yaml.Node

namespace LineShell.Yaml.Graph

def mergePlace? (g : Graph) (pairs : List (Nat × Nat)) (start : Nat) : Option Nat :=
  ((pairs.drop start).findIdx? fun p => (g.node p.1).tag == .merge).map (start + ·)

/-- The key whose value stands for its mapping is a text like any other among the pairs. -/
def plainKey (g : Graph) (i : Nat) : Graph :=
  if (g.node i).tag = .content then g.withTag i .text else g

def settle (g : Graph) (i : Nat) (merged : List (Nat × Nat)) : Graph :=
  let pairs := g.pairs i
  (pairs.foldl (fun g p => plainKey g p.1) g).withContent i (.mapping (merged ++ pairs))

/-- Replaces the merge keys of a mapping from a place on. `merged` are the pairs that those before
stood for. -/
def mergeFrom (i : Nat) :
    (budget : Nat) → (start : Nat) → (merged : List (Nat × Nat)) → Graph → Reads Graph
  | 0, _, _, g => .ok g
  | n + 1, start, merged, g => do
    let pairs := g.pairs i
    match g.mergePlace? pairs start with
    | none => return g.settle i merged
    | some place =>
      let source := (pairs.getD place (0, 0)).2
      let g := g.withContent i (.mapping (pairs.eraseIdx place))
      match (g.node source).content with
      | .mapping _ =>
        let g ← mergeFrom source n 0 [] g
        mergeFrom i n place (merged ++ g.pairs source) g
      | .sequence items =>
        let (g, groups) ← items.foldlM (fun (g, groups) item =>
          match (g.node item).content with
          | .mapping _ => do
            let g ← mergeFrom item n 0 [] g
            return (g, g.pairs item :: groups)
          | _ => malformed) (g, [])
        mergeFrom i n place (merged ++ groups.flatten) g
      | .scalar _ => malformed

def countPairs (g : Graph) : Nat :=
  g.foldl (fun n node => match node.content with
    | .mapping pairs => n + pairs.length
    | _ => n) 0

def merge (g : Graph) (i : Nat) : Reads Graph := g.mergeFrom i (g.countPairs + 1) 0 []

end LineShell.Yaml.Graph

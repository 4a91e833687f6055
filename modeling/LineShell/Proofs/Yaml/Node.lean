import LineShell.Proofs.Yaml.Cursor
import LineShell.Yaml.Node

namespace LineShell.Yaml

variable {α : Type} {F : Failure → Prop} {T : Token → Prop} {s : Reading}
  {handles : List (String × String)}

/-- The failures that tokens of a kind tell are failures of another kind. -/
structure Telling (F : Failure → Prop) (T : Token → Prop) : Prop where
  malformed : F .malformed
  tooDeep : F (.fault .tooDeep)
  broken : ∀ f, T (.broken f) → F f

def Reading.All (T : Token → Prop) (s : Reading) : Prop := ∀ t ∈ s.tokens, T t

def Keeps (F : Failure → Prop) (T : Token → Prop) (read : Reading → Reads (α × Reading)) : Prop :=
  ∀ ⦃s⦄, s.All T → Ends F (fun r => r.2.All T) (read s)

namespace Reading

theorem All.rest (h : s.All T) : s.rest.All T := fun t ht => h t (List.mem_of_mem_drop ht)

theorem All.add (h : s.All T) (n : Node) : (s.add n).2.All T := h

theorem All.name (h : s.All T) (i : Nat) (anchor : Option String) : (s.name i anchor).All T := by
  cases anchor <;> exact h

theorem All.of_append (h : s.All T) (ts : List Token) {us : List Token}
    (he : s.tokens = ts ++ us) : ({ s with tokens := us } : Reading).All T :=
  fun t ht => h t (he ▸ List.mem_append_right ts ht)

theorem All.unexpected {Q : α → Prop} (h : s.All T) (ht : Telling F T) :
    Ends F Q (s.unexpected : Reads α) := by
  unfold Reading.unexpected
  split
  · rename_i f r he
    exact ht.broken f (h _ (he ▸ List.mem_cons_self))
  · exact ht.malformed

theorem All.inside (h : s.All T) (ht : Telling F T) {read : Reading → Reads (α × Reading)}
    (hr : Keeps F T read) : Ends F (fun r => r.2.All T) (s.inside read) := by
  unfold Reading.inside
  split
  · exact ht.tooDeep
  · rename_i d _
    exact (hr (s := { s with depth := d }) h).read fun _ _ hs => hs

/-- A collection is added before its nodes are read, and filled after. -/
theorem All.collection (h : s.All T) (ht : Telling F T) {items : Reading → Reads (α × Reading)}
    (hi : Keeps F T items) (node : Node) (content : α → Content) (anchor : Option String) :
    Ends F (fun r => r.2.All T) (do
      let r ← ((s.add node).2.name (s.add node).1 anchor).inside items
      return ((s.add node).1, r.2.fill (s.add node).1 (content r.1))) :=
  (((h.add node).name _ _).inside ht hi).read fun _ _ hs => hs

end Reading

namespace Properties

theorem ends_fullName (hm : F .malformed) (handle : Option String) (suffix : String) :
    Ends F (fun _ => True) (fullName handles handle suffix) := by
  unfold fullName
  split
  · trivial
  · split
    · trivial
    · exact hm

theorem keeps_read (hm : F .malformed) : Keeps F T (Properties.read handles) := by
  intro s h
  unfold Properties.read
  split
  · rename_i a handle suffix r he
    exact (ends_fullName hm handle suffix).bind fun _ _ =>
      h.of_append [.anchor a, .tag handle suffix] he
  · rename_i handle suffix a r he
    exact (ends_fullName hm handle suffix).bind fun _ _ =>
      h.of_append [.tag handle suffix, .anchor a] he
  · rename_i a r _ he
    exact h.of_append [.anchor a] he
  · rename_i handle suffix r _ he
    exact (ends_fullName hm handle suffix).bind fun _ _ =>
      h.of_append [.tag handle suffix] he
  · exact h

end Properties

namespace Node

/-- Reading nodes with a budget keeps to the tokens. -/
structure Ending (F : Failure → Prop) (T : Token → Prop) (handles : List (String × String))
    (n : Nat) : Prop where
  read : ∀ position, Keeps F T (read handles position n)
  blockItems : Keeps F T (blockItems handles n)
  indentlessItems : Keeps F T (indentlessItems handles n)
  blockPairs : Keeps F T (blockPairs handles n)
  flowItems : ∀ first, Keeps F T (flowItems handles first n)
  flowPair : Keeps F T (flowPair handles n)
  flowPairs : ∀ first, Keeps F T (flowPairs handles first n)

theorem ending_zero (ht : Telling F T) : Ending F T handles 0 where
  read _ _ h := h.unexpected ht
  blockItems _ h := h.unexpected ht
  indentlessItems _ h := h.unexpected ht
  blockPairs _ h := h.unexpected ht
  flowItems _ _ h := h.unexpected ht
  flowPair _ h := h.unexpected ht
  flowPairs _ _ h := h.unexpected ht

section Step

variable {n : Nat} (hn : Ending F T handles n)

include hn

theorem Ending.blockItems_succ (ht : Telling F T) :
    Keeps F T (Node.blockItems handles (n + 1)) := by
  intro s h
  unfold Node.blockItems
  dsimp only
  split
  · split
    · exact (hn.blockItems (h.rest.add _)).read fun _ _ hs => hs
    · refine (hn.read _ h.rest).read fun item s hs => ?_
      exact (hn.blockItems hs).read fun _ _ hs => hs
  · exact h.rest
  · exact h.unexpected ht

theorem Ending.indentlessItems_succ : Keeps F T (Node.indentlessItems handles (n + 1)) := by
  intro s h
  unfold Node.indentlessItems
  dsimp only
  split
  · split
    · exact (hn.indentlessItems (h.rest.add _)).read fun _ _ hs => hs
    · refine (hn.read _ h.rest).read fun item s hs => ?_
      exact (hn.indentlessItems hs).read fun _ _ hs => hs
  · exact h

theorem Ending.blockPairs_succ (ht : Telling F T) :
    Keeps F T (Node.blockPairs handles (n + 1)) := by
  have side : Keeps F T fun s =>
      if leftOut false s.tokens then pure (s.add empty) else Node.read handles .inMapping n s :=
    fun s hs => .ite (hs.add _) (hn.read _ hs)
  intro s h
  unfold Node.blockPairs
  dsimp only
  split
  · refine (side h.rest).read fun key s hs => ?_
    dsimp only
    split
    · refine (side hs.rest).read fun value s hs => ?_
      exact (hn.blockPairs hs).read fun _ _ hs => hs
    · exact (hn.blockPairs (hs.add _)).read fun _ _ hs => hs
  · exact h.rest
  · exact h.unexpected ht

theorem Ending.flowItems_succ (ht : Telling F T) (first : Bool) :
    Keeps F T (Node.flowItems handles first (n + 1)) := by
  intro s h
  unfold Node.flowItems
  split
  · exact h.rest
  · extract_lets next
    have hnext : Keeps F T next := by
      intro s hs
      dsimp only [next]
      split
      · exact hs.rest
      · refine (hs.rest.inside ht hn.flowPair).read fun pair s hs => ?_
        exact (hn.flowItems false (hs.add _)).read fun _ _ hs => hs
      · refine (hn.read _ hs).read fun item s hs => ?_
        exact (hn.flowItems false hs).read fun _ _ hs => hs
    split
    · exact hnext h
    · split
      · exact hnext h.rest
      · exact (h.unexpected ht).bind fun _ hs => hnext hs

theorem Ending.flowPair_succ : Keeps F T (Node.flowPair handles (n + 1)) := by
  have side : Keeps F T fun s =>
      if leftOutInFlow s.tokens then pure (s.add empty) else Node.read handles .flow n s :=
    fun s hs => .ite (hs.add _) (hn.read _ hs)
  intro s h
  unfold Node.flowPair
  extract_lets _ next
  have hnext : ∀ key : Nat, Keeps F T fun s => next (key, s) := by
    intro key s hs
    dsimp only [next]
    split
    · exact (side hs.rest).read fun _ _ hs => hs
    · exact hs.add _
  split
  · exact hnext _ (h.add _)
  · exact (side h).read fun key s hs => hnext key hs

theorem Ending.flowPairs_succ (ht : Telling F T) (first : Bool) :
    Keeps F T (Node.flowPairs handles first (n + 1)) := by
  intro s h
  unfold Node.flowPairs
  split
  · exact h.rest
  · extract_lets next
    have hnext : Keeps F T next := by
      intro s hs
      dsimp only [next]
      split
      · exact hs.rest
      · refine (hn.flowPair hs.rest).read fun pair s hs => ?_
        exact (hn.flowPairs false hs).read fun _ _ hs => hs
      · refine (hn.read _ hs).read fun key s hs => ?_
        exact (hn.flowPairs false (hs.add _)).read fun _ _ hs => hs
    split
    · exact hnext h
    · split
      · exact hnext h.rest
      · exact (h.unexpected ht).bind fun _ hs => hnext hs

theorem Ending.read_succ (ht : Telling F T) (position : Position) :
    Keeps F T (Node.read handles position (n + 1)) := by
  intro s h
  unfold Node.read
  split
  · split
    · exact h.rest
    · exact ht.malformed
  · refine (Properties.keeps_read ht.malformed h).read fun p s hs => ?_
    have new : ∀ {r : Reads (Nat × Reading)} (isNew : Bool),
        Ends F (fun r => r.2.All T) r → Ends F (fun r => r.2.All T) (do require isNew; r) :=
      fun isNew hr => (ends_require ht.malformed isNew).bind fun _ _ => hr
    dsimp only
    split
    · exact new _ (hs.collection ht hn.indentlessItems _ .sequence _)
    · exact new _ ((hs.rest.add _).name _ _)
    · exact new _ (hs.rest.collection ht (hn.flowItems true) _ .sequence _)
    · exact new _ (hs.rest.collection ht (hn.flowPairs true) _ .mapping _)
    · exact new _ (hs.rest.collection ht hn.blockItems _ .sequence _)
    · exact new _ (hs.rest.collection ht hn.blockItems _ .sequence _)
    · exact new _ (hs.rest.collection ht hn.blockPairs _ .mapping _)
    · exact new _ (hs.rest.collection ht hn.blockPairs _ .mapping _)
    · split
      · exact hs.unexpected ht
      · exact new _ ((hs.add _).name _ _)

end Step

theorem ending (ht : Telling F T) (n : Nat) : Ending F T handles n := by
  induction n with
  | zero => exact ending_zero ht
  | succ n ih => exact {
      read := ih.read_succ ht
      blockItems := ih.blockItems_succ ht
      indentlessItems := ih.indentlessItems_succ
      blockPairs := ih.blockPairs_succ ht
      flowItems := ih.flowItems_succ ht
      flowPair := ih.flowPair_succ
      flowPairs := ih.flowPairs_succ ht }

end Node

end LineShell.Yaml

import LineShell.Yaml.Name

namespace LineShell.Yaml

section Ends

variable {α β γ : Type} {F : Failure → Prop} {P Q : α → Prop} {R : β → Prop}

/-- Reading ends well: with a result that satisfies `Q`, or by a failure that satisfies `F`. -/
def Ends (F : Failure → Prop) (Q : α → Prop) : Reads α → Prop
  | .ok a => Q a
  | .error f => F f

theorem Ends.bind {r : Reads α} {k : α → Reads β} (hr : Ends F Q r)
    (hk : ∀ a, Q a → Ends F R (k a)) : Ends F R (r >>= k) := by
  cases r with
  | ok a => exact hk a hr
  | error f => exact hr

/-- What is read comes with the state in which reading goes on. -/
theorem Ends.read {S : γ → Prop} {r : Reads (α × γ)} {k : α × γ → Reads β}
    (hr : Ends F (fun r => S r.2) r) (hk : ∀ a c, S c → Ends F R (k (a, c))) :
    Ends F R (r >>= k) :=
  hr.bind fun r hc => hk r.1 r.2 hc

theorem Ends.mono {r : Reads α} (hr : Ends F P r) (h : ∀ a, P a → Q a) : Ends F Q r := by
  cases r with
  | ok a => exact h a hr
  | error f => exact hr

theorem Ends.ite {p : Prop} [Decidable p] {r r' : Reads α} (h : Ends F Q r) (h' : Ends F Q r') :
    Ends F Q (if p then r else r') := by
  split
  · exact h
  · exact h'

theorem ends_require (hm : F .malformed) (p : Bool) : Ends F (fun _ => p = true) (require p) := by
  cases p with
  | true => rfl
  | false => exact hm

theorem Ends.foldlM {k : β → α → Reads β} (hk : ∀ b a, Ends F (fun _ => True) (k b a))
    (items : List α) (b : β) : Ends F (fun _ => True) (items.foldlM k b) := by
  induction items generalizing b with
  | nil => trivial
  | cons a items ih =>
    rw [List.foldlM_cons]
    exact (hk b a).bind fun b _ => ih b

theorem Ends.mapM {k : α → Reads β} (hk : ∀ a, Ends F (fun _ => True) (k a)) (items : List α) :
    Ends F (fun _ => True) (items.mapM k) := by
  induction items with
  | nil => trivial
  | cons a items ih =>
    rw [List.mapM_cons]
    exact (hk a).bind fun b _ => ih.bind fun bs _ => trivial

end Ends

namespace Cursor

/-- From the one cursor, reading may come to the other. -/
structure Reaches (o c : Cursor) : Prop where
  rest : c.rest <:+ o.rest
  beyond : c.beyond = o.beyond

def Fails (o : Cursor) (f : Failure) : Prop :=
  f = .malformed ∨ (∃ fault, f = .fault fault) ∨ o.beyond = some f

theorem fails_malformed (o : Cursor) : o.Fails .malformed := .inl rfl

variable {o c : Cursor}

theorem Reaches.refl (o : Cursor) : o.Reaches o := ⟨List.suffix_refl _, rfl⟩

theorem Reaches.next (h : o.Reaches c) : o.Reaches c.next := by
  unfold Cursor.next
  split
  · exact h
  · rename_i x r hr
    have hs : r <:+ o.rest := (List.suffix_cons x r).trans (hr ▸ h.rest)
    dsimp only
    split <;> exact ⟨hs, h.beyond⟩

theorem Reaches.forward (h : o.Reaches c) (n : Nat) : o.Reaches (c.forward n) := by
  induction n generalizing c with
  | zero => exact h
  | succ n ih => exact ih h.next

theorem Reaches.span (h : o.Reaches c) (p : Char → Bool) : o.Reaches (c.span p).2 :=
  h.forward _

theorem Reaches.skip (h : o.Reaches c) (p : Char → Bool) : o.Reaches (c.skip p) :=
  h.span p

theorem Reaches.lineBreak (h : o.Reaches c) {x : Char} {c' : Cursor}
    (hb : c.lineBreak = some (x, c')) : o.Reaches c' := by
  unfold Cursor.lineBreak at hb
  split at hb <;> cases hb
  · exact h.forward 2
  all_goals exact h.next

theorem Reaches.skipBreak (h : o.Reaches c) : o.Reaches c.skipBreak := by
  unfold Cursor.skipBreak
  cases hb : c.lineBreak with
  | none => exact h
  | some p => exact h.lineBreak hb

/-- Where reading stops for want of text, it fails as the text was cut off. -/
theorem Reaches.arrive (h : o.Reaches c) :
    Ends o.Fails (fun _ => c.rest ≠ [] ∨ o.beyond = none) c.arrive := by
  unfold Cursor.arrive
  split
  · rename_i f hr hb
    exact .inr (.inr (h.beyond ▸ hb))
  · rename_i hn
    by_cases hr : c.rest = []
    · refine .inr ?_
      cases hb : o.beyond with
      | none => rfl
      | some f => exact absurd (h.beyond.trans hb) (hn f hr)
    · exact .inl hr

theorem Reaches.stuck {α : Type} {Q : α → Prop} (h : o.Reaches c) :
    Ends o.Fails Q (c.stuck : Reads α) :=
  h.arrive.bind fun _ _ => o.fails_malformed

theorem Reaches.require (h : o.Reaches c) (p : Bool) :
    Ends o.Fails (fun _ => p = true) (c.require p) := by
  unfold Cursor.require
  split
  · assumption
  · exact h.stuck

theorem Reaches.restOfLine (h : o.Reaches c) : Ends o.Fails o.Reaches c.restOfLine := by
  unfold Cursor.restOfLine
  dsimp only
  have hs : o.Reaches (if (c.skip (· == ' ')).here == '#' then
      (c.skip (· == ' ')).skip (!isBreakOrEnd ·) else c.skip (· == ' ')) := by
    split
    · exact (h.skip _).skip _
    · exact h.skip _
  exact (hs.require _).bind fun _ _ => hs.skipBreak

end Cursor

end LineShell.Yaml

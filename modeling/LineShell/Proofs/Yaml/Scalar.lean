import LineShell.Proofs.Yaml.Cursor

namespace LineShell.Yaml

open Cursor

variable {o c : Cursor}

namespace Scalar

theorem reaches_hexNumber (h : o.Reaches c) (n : Nat) :
    Ends o.Fails (fun r => o.Reaches r.2) (hexNumber n c) := by
  unfold hexNumber
  dsimp only
  exact ((h.forward _).require _).bind fun _ _ => h.forward _

theorem ends_charOfNumber (o : Cursor) (n : Nat) :
    Ends o.Fails (fun _ => True) (charOfNumber n) := by
  unfold charOfNumber
  split
  · exact .inr (.inl ⟨_, rfl⟩)
  · split
    · exact .inr (.inl ⟨_, rfl⟩)
    · exact .ite (.inr (.inl ⟨_, rfl⟩)) trivial

theorem reaches_quotedBreaks (h : o.Reaches c) (n : Nat) :
    Ends o.Fails (fun r => o.Reaches r.2) (quotedBreaks n c) := by
  induction n generalizing c with
  | zero => exact o.fails_malformed
  | succ n ih =>
    unfold quotedBreaks
    refine (h.require _).bind fun _ _ => ?_
    have hs := h.skip fun x => x == ' ' || x == '\t'
    dsimp only
    split
    · rename_i hb
      exact (ih (hs.lineBreak hb)).read fun _ _ hc => hc
    · exact hs

theorem reaches_quoted (h : o.Reaches c) (double : Bool) (n : Nat) :
    Ends o.Fails (fun r => o.Reaches r.2) (quoted double n c) := by
  induction n generalizing c with
  | zero => exact o.fails_malformed
  | succ n ih =>
    have more : ∀ (s : List Char) {c : Cursor}, o.Reaches c →
        Ends o.Fails (fun r => o.Reaches r.2)
          ((quoted double n c).bind fun r => .ok (s ++ r.1, r.2)) :=
      fun s c hc => Ends.read (ih hc) fun _ _ hc => hc
    unfold quoted
    dsimp only
    split
    · split
      · exact more _ (h.forward 2)
      · exact h.next
    · split
      · exact h.next
      · split
        · -- an escape
          split
          · exact more _ h.next.next
          · refine (reaches_hexNumber h.next.next _).read fun number c hc => ?_
            exact (ends_charOfNumber o number).bind fun x _ => more [x] hc
          · split
            · rename_i hb
              exact (reaches_quotedBreaks (h.next.lineBreak hb) _).read fun bs c hc => more bs hc
            · exact h.next.stuck
        · split
          · -- blanks, and perhaps the ends of lines
            have hs := h.span fun x => x == ' ' || x == '\t'
            refine (hs.require _).bind fun _ _ => ?_
            split
            · rename_i hb
              exact (reaches_quotedBreaks (hs.lineBreak hb) _).read fun bs c hc => more _ hc
            · exact more _ hs
          · exact more _ h.next

theorem reaches_plainBreaks (h : o.Reaches c) (n : Nat) : o.Reaches (plainBreaks n c).2 := by
  induction n generalizing c with
  | zero => exact h
  | succ n ih =>
    unfold plainBreaks
    split
    · exact ih h.next
    · split
      · exact h
      · rename_i hb
        split
        · exact h.lineBreak hb
        · exact ih (h.lineBreak hb)

theorem reaches_plainSpaces (h : o.Reaches c) : o.Reaches (plainSpaces c).2.1 := by
  have hs := h.span (· == ' ')
  unfold plainSpaces
  dsimp only
  split
  · exact hs
  · rename_i c' hb
    have hl := hs.lineBreak hb
    have hp := reaches_plainBreaks hl (c'.rest.length + 1)
    split
    · exact hl
    · split
      · rename_i he
        rw [he] at hp
        exact hp
      · rename_i he
        rw [he] at hp
        exact hp

theorem reaches_plain (h : o.Reaches c) (inFlow : Bool) (indent : Int) (n : Nat)
    (pending : List Char) : o.Reaches (plain inFlow indent n pending c).2.1 := by
  induction n generalizing c pending with
  | zero => exact h
  | succ n ih =>
    unfold plain
    split
    · exact h
    · dsimp only
      split
      · exact h
      · have hs := reaches_plainSpaces (h.forward (plainLength inFlow c (c.rest.length + 1) 0))
        split
        · exact hs
        · exact ih hs _

theorem reaches_blockHeader (h : o.Reaches c) :
    Ends o.Fails (fun r => o.Reaches r.2.2) (blockHeader c) := by
  have after : ∀ header : Chomping × Option Nat × Cursor, o.Reaches header.2.2 →
      Ends o.Fails (fun r => o.Reaches r.2.2) (do
        require (header.2.1 != some 0)
        header.2.2.require (isSpaceOrEnd header.2.2.here)
        let c ← header.2.2.restOfLine
        return (header.1, header.2.1, c)) := by
    intro header hh
    refine (ends_require o.fails_malformed _).bind fun _ _ => ?_
    refine (hh.require _).bind fun _ _ => ?_
    exact hh.restOfLine.bind fun c hc => hc
  unfold blockHeader
  dsimp only
  refine after _ ?_
  split
  · split
    · exact h.forward 2
    · exact h.next
  · split
    · exact h.forward 2
    · exact h.next
  · exact h

theorem reaches_blockIndentation (h : o.Reaches c) (n deepest : Nat) :
    o.Reaches (blockIndentation n deepest c).2.2 := by
  induction n generalizing c deepest with
  | zero => exact h
  | succ n ih =>
    unfold blockIndentation
    split
    · rename_i hb
      exact ih (h.lineBreak hb) deepest
    · split
      · exact ih h.next _
      · exact h

theorem reaches_blockBreaks (h : o.Reaches c) (indent n : Nat) :
    o.Reaches (blockBreaks indent n c).2 := by
  induction n generalizing c with
  | zero => exact h
  | succ n ih =>
    have hs : o.Reaches (skipIndent indent c) := h.forward _
    unfold blockBreaks
    dsimp only
    split
    · exact hs
    · rename_i hb
      exact ih (hs.lineBreak hb)

theorem reaches_blockLines (h : o.Reaches c) (folded : Bool) (indent n : Nat)
    (breaks : List Char) : o.Reaches (blockLines folded indent n breaks c).2.2.2 := by
  induction n generalizing c breaks with
  | zero => exact h
  | succ n ih =>
    have hs := h.span (!isBreakOrEnd ·)
    have after : ∀ {c : Cursor} (m : Nat), o.Reaches c → o.Reaches (blockBreaks indent m c).2 :=
      fun m hc => reaches_blockBreaks hc indent m
    unfold blockLines
    dsimp only
    split
    · split
      · rename_i hb
        split
        · exact ih (after _ (hs.lineBreak hb)) _
        · exact after _ (hs.lineBreak hb)
      · split
        · exact ih (after _ hs) _
        · exact after _ hs
    · exact h

theorem reaches_block (h : o.Reaches c) (folded : Bool) (parent : Int) :
    Ends o.Fails (fun r => o.Reaches r.2) (block folded parent c) := by
  unfold block
  refine (reaches_blockHeader h).bind fun (chomping, increment, c) hc => ?_
  dsimp only
  split
  · exact reaches_blockLines (reaches_blockIndentation hc _ 0) folded _ _ _
  · exact reaches_blockLines (reaches_blockBreaks hc _ _) folded _ _ _

end Scalar

namespace Name

theorem reaches_name (h : o.Reaches c) : Ends o.Fails (fun r => o.Reaches r.2) (name c) := by
  have hs := h.span isNameChar
  unfold name
  exact (hs.require _).bind fun _ _ => hs

theorem reaches_anchor (h : o.Reaches c) : Ends o.Fails (fun r => o.Reaches r.2) (anchor c) := by
  unfold anchor
  refine (reaches_name h).read fun s c hc => ?_
  exact (hc.require _).bind fun _ _ => hc

theorem reaches_escapedBytes (h : o.Reaches c) (n : Nat) :
    Ends o.Fails (fun r => o.Reaches r.2) (escapedBytes n c) := by
  induction n generalizing c with
  | zero => exact o.fails_malformed
  | succ n ih =>
    unfold escapedBytes
    split
    · refine (Scalar.reaches_hexNumber h.next 2).read fun b c hc => ?_
      exact (ih hc).read fun _ _ hc => hc
    · exact h

theorem reaches_tagText (h : o.Reaches c) (n : Nat) :
    Ends o.Fails (fun r => o.Reaches r.2) (tagText n c) := by
  induction n generalizing c with
  | zero => exact o.fails_malformed
  | succ n ih =>
    unfold tagText
    split
    · refine (reaches_escapedBytes h _).read fun bytes c hc => ?_
      dsimp only
      split
      · exact o.fails_malformed
      · exact (ih hc).read fun _ _ hc => hc
    · split
      · exact (ih (h.span _)).read fun _ _ hc => hc
      · exact h

theorem reaches_tagSuffix (h : o.Reaches c) :
    Ends o.Fails (fun r => o.Reaches r.2) (tagSuffix c) := by
  unfold tagSuffix
  refine (h.require _).bind fun _ _ => ?_
  exact (reaches_tagText h _).read fun _ _ hc => hc

theorem reaches_handle (h : o.Reaches c) :
    Ends o.Fails (fun r => o.Reaches r.2) (handle c) := by
  unfold handle
  refine (h.require _).bind fun _ _ => ?_
  split
  · exact h.next
  · have hs := h.next.span isNameChar
    exact (hs.require _).bind fun _ _ => hs.next

theorem reaches_number (h : o.Reaches c) :
    Ends o.Fails (fun r => o.Reaches r.2) (number c) := by
  have hs := h.span Char.isDigit
  unfold number
  exact (hs.require _).bind fun _ _ => hs

theorem reaches_tag (h : o.Reaches c) : Ends o.Fails (fun r => o.Reaches r.2.2) (tag c) := by
  have ends : ∀ (handle : Option String) (s : String) {c : Cursor}, o.Reaches c →
      Ends o.Fails (fun r => o.Reaches r.2.2) (do
        c.require (isSpaceOrEnd c.here)
        return (handle, s, c)) :=
    fun handle s c hc => (hc.require _).bind fun _ _ => hc
  have suffix : ∀ (handle : String) {c : Cursor}, o.Reaches c →
      Ends o.Fails (fun r => o.Reaches r.2.2) (do
        let r ← tagSuffix c
        r.2.require (isSpaceOrEnd r.2.here)
        return (some handle, r.1, r.2)) :=
    fun handle c hc => (reaches_tagSuffix hc).read fun s c hc => ends (some handle) s hc
  unfold tag
  dsimp only
  split
  · refine (reaches_tagSuffix (h.forward 2)).read fun s c hc => ?_
    exact (hc.require _).bind fun _ _ => ends none s hc.next
  · split
    · exact ends none "!" h.next
    · split
      · exact (reaches_handle h).read fun handle c hc => suffix handle hc
      · exact suffix "!" h.next

theorem reaches_directive (h : o.Reaches c) :
    Ends o.Fails (fun r => o.Reaches r.2) (directive c) := by
  have ends : ∀ (d : Directive) {c : Cursor}, o.Reaches c →
      Ends o.Fails (fun r => o.Reaches r.2) (do return (d, ← c.restOfLine)) :=
    fun d c hc => hc.restOfLine.bind fun c hc => hc
  unfold directive
  refine (reaches_name h).read fun s c hc => ?_
  refine (hc.require _).bind fun _ _ => ?_
  dsimp only
  split
  · refine (reaches_number (hc.skip _)).read fun major c hc => ?_
    refine (hc.require _).bind fun _ _ => ?_
    refine (reaches_number hc.next).read fun minor c hc => ?_
    exact (hc.require _).bind fun _ _ => ends _ hc
  · split
    · refine (reaches_handle (hc.skip _)).read fun handle c hc => ?_
      refine (hc.require _).bind fun _ _ => ?_
      refine (reaches_tagSuffix (hc.skip _)).read fun meaning c hc => ?_
      exact (hc.require _).bind fun _ _ => ends _ hc
    · exact ends _ (hc.skip _)

end Name

end LineShell.Yaml

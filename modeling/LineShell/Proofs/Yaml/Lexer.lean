import LineShell.Proofs.Yaml.Scalar
import LineShell.Yaml.Lexer

namespace LineShell.Yaml

def Token.isOrdinary : Token → Bool
  | .streamEnd | .broken _ => false
  | _ => true

namespace Lexer

variable {o : Cursor} {s : Lexer} {t : Token}

/-- Reading tokens has come to here from a cursor, and to no end. -/
structure Sound (o : Cursor) (s : Lexer) : Prop where
  cursor : o.Reaches s.cursor
  ordinary : ∀ t ∈ s.tokens, t.isOrdinary = true

theorem sound_ofCursor {c : Cursor} (hc : o.Reaches c) : Sound o (ofCursor c) :=
  ⟨hc, by simp [ofCursor]⟩

/-- Only the place and the tokens count. -/
theorem Sound.of_eq {s' : Lexer} (h : Sound o s) (hc : o.Reaches s'.cursor)
    (ht : s'.tokens = s.tokens) : Sound o s' :=
  ⟨hc, by rw [ht]; exact h.ordinary⟩

theorem Sound.push (h : Sound o s) (t : Token) (ht : t.isOrdinary = true) : Sound o (s.push t) := by
  refine ⟨h.cursor, ?_⟩
  intro t' ht'
  rcases Array.mem_push.mp ht' with hm | rfl
  · exact h.ordinary t' hm
  · exact ht

theorem Sound.mark (h : Sound o s) (t : Token) (ht : t.isOrdinary = true) (n : Nat) :
    Sound o (s.mark t n) := (h.push t ht).of_eq (h.cursor.forward n) rfl

theorem ordinary_insertAt {ts : Array Token} (place : Nat)
    (h : ∀ t ∈ ts, t.isOrdinary = true) (ht : t.isOrdinary = true) :
    ∀ t' ∈ insertAt place t ts, t'.isOrdinary = true := by
  intro t' hm
  simp only [insertAt, List.mem_toArray, List.mem_append, List.mem_cons] at hm
  rcases hm with hm | rfl | hm
  · exact h t' (Array.mem_toList_iff.mp (List.mem_of_mem_take hm))
  · exact ht
  · exact h t' (Array.mem_toList_iff.mp (List.mem_of_mem_drop hm))

theorem Sound.indentTo (h : Sound o s) (column place : Nat) (ht : t.isOrdinary = true) :
    Sound o (s.indentTo column place t) := by
  unfold Lexer.indentTo
  split
  · exact ⟨h.cursor, ordinary_insertAt place h.ordinary ht⟩
  · exact h

theorem Sound.indentHere (h : Sound o s) (ht : t.isOrdinary = true) :
    Ends o.Fails (Sound o) (s.indentHere t) := by
  unfold Lexer.indentHere
  split
  · exact h
  · exact (ends_require o.fails_malformed _).bind fun _ _ => h.indentTo _ _ ht

theorem Sound.skipGaps (h : Sound o s) (n : Nat) : Sound o (s.skipGaps n) := by
  induction n generalizing s with
  | zero => exact h
  | succ n ih =>
    have hc : o.Reaches (if (s.cursor.skip (· == ' ')).here = '#' then
        (s.cursor.skip (· == ' ')).skip (!isBreakOrEnd ·) else s.cursor.skip (· == ' ')) := by
      split
      · exact (h.cursor.skip _).skip _
      · exact h.cursor.skip _
    unfold Lexer.skipGaps
    dsimp only
    split
    · rename_i hb
      exact ih (h.of_eq (hc.lineBreak hb) rfl)
    · exact h.of_eq hc rfl

theorem Sound.dropStale (h : Sound o s) :
    Ends o.Fails (fun s' => Sound o s' ∧ s'.cursor = s.cursor) s.dropStale :=
  (ends_require o.fails_malformed _).bind fun _ _ => ⟨h.of_eq h.cursor rfl, rfl⟩

theorem Sound.dropSpot (h : Sound o s) : Ends o.Fails (Sound o) s.dropSpot :=
  (ends_require o.fails_malformed _).bind fun _ _ => h.of_eq h.cursor rfl

theorem Sound.saveSpot (h : Sound o s) : Ends o.Fails (Sound o) s.saveSpot := by
  unfold Lexer.saveSpot
  split
  · exact h.dropSpot.bind fun _ hs => hs.of_eq hs.cursor rfl
  · exact h

theorem Sound.unwindFrom (h : Sound o s) (column : Int) (outer : List Int) :
    Sound o (unwindFrom column outer s) := by
  induction outer generalizing s with
  | nil => exact h
  | cons d r ih =>
    unfold Lexer.unwindFrom
    split
    · exact ih ((h.push .blockEnd rfl).of_eq h.cursor rfl)
    · exact h

theorem Sound.unwind (h : Sound o s) (column : Int) : Sound o (s.unwind column) := by
  unfold Lexer.unwind
  split
  · exact h
  · exact h.unwindFrom _ _

theorem cursor_unwindFrom (column : Int) (outer : List Int) (s : Lexer) :
    (unwindFrom column outer s).cursor = s.cursor := by
  induction outer generalizing s with
  | nil => rfl
  | cons d r ih =>
    unfold Lexer.unwindFrom
    split
    · exact ih _
    · rfl

theorem cursor_unwind (column : Int) (s : Lexer) : (s.unwind column).cursor = s.cursor := by
  unfold Lexer.unwind
  split
  · rfl
  · exact cursor_unwindFrom _ _ _

theorem Sound.boundary (h : Sound o s) : Ends o.Fails (Sound o) s.boundary :=
  (h.unwind (-1)).dropSpot.bind fun _ hs => hs.of_eq hs.cursor rfl

theorem Sound.openBracket (h : Sound o s) (ht : t.isOrdinary = true) :
    Ends o.Fails (Sound o) (s.openBracket t) :=
  h.saveSpot.bind fun _ hs => (hs.mark t ht 1).of_eq (hs.cursor.forward 1) rfl

theorem Sound.closeBracket (h : Sound o s) (ht : t.isOrdinary = true) :
    Ends o.Fails (Sound o) (s.closeBracket t) :=
  (ends_require o.fails_malformed _).bind fun _ _ =>
    h.dropSpot.bind fun _ hs => (hs.mark t ht 1).of_eq (hs.cursor.forward 1) rfl

theorem Sound.flowEntry (h : Sound o s) : Ends o.Fails (Sound o) s.flowEntry :=
  h.dropSpot.bind fun _ hs => (hs.mark .flowEntry rfl 1).of_eq (hs.cursor.forward 1) rfl

theorem Sound.blockEntry (h : Sound o s) : Ends o.Fails (Sound o) s.blockEntry :=
  (h.indentHere rfl).bind fun _ hs =>
    hs.dropSpot.bind fun _ hs => (hs.mark .blockEntry rfl 1).of_eq (hs.cursor.forward 1) rfl

theorem Sound.markedKey (h : Sound o s) : Ends o.Fails (Sound o) s.markedKey :=
  (h.indentHere rfl).bind fun _ hs =>
    hs.dropSpot.bind fun _ hs => (hs.mark .key rfl 1).of_eq (hs.cursor.forward 1) rfl

theorem Sound.value (h : Sound o s) : Ends o.Fails (Sound o) s.value := by
  unfold Lexer.value
  split
  · rename_i spot _
    have hk : Sound o { s with
        spots := s.spots.filter fun e => e.1 != s.flow
        tokens := insertAt spot.token .key s.tokens
        keyAllowed := false } :=
      ⟨h.cursor, ordinary_insertAt _ h.ordinary rfl⟩
    dsimp only
    split
    · exact hk.mark .value rfl 1
    · exact (hk.indentTo _ _ rfl).mark .value rfl 1
  · exact (h.indentHere rfl).bind fun _ hs =>
      hs.dropSpot.bind fun _ hs => (hs.mark .value rfl 1).of_eq (hs.cursor.forward 1) rfl

/-- What may be a key is read as an ordinary token, from a cursor forward. -/
def Readable (o : Cursor) (read : Cursor → Reads (Token × Cursor)) : Prop :=
  ∀ c, o.Reaches c → Ends o.Fails (fun r => r.1.isOrdinary = true ∧ o.Reaches r.2) (read c)

theorem Sound.possibleKey {read : Cursor → Reads (Token × Cursor)} (h : Sound o s)
    (hr : Readable o read) : Ends o.Fails (Sound o) (s.possibleKey read) :=
  h.saveSpot.bind fun _ hs => (hr _ hs.cursor).bind fun _ ht =>
    (hs.push _ ht.1).of_eq ht.2 rfl

theorem readable_reference (o : Cursor) : Readable o reference :=
  fun _ hc => (Name.reaches_anchor hc.next).read fun _ _ hc => ⟨rfl, hc⟩

theorem readable_anchor (o : Cursor) : Readable o anchor :=
  fun _ hc => (Name.reaches_anchor hc.next).read fun _ _ hc => ⟨rfl, hc⟩

theorem readable_tag (o : Cursor) : Readable o tag :=
  fun _ hc => (Name.reaches_tag hc).bind fun _ hc => ⟨rfl, hc⟩

theorem readable_quoted (o : Cursor) : Readable o quoted :=
  fun _ hc => (Scalar.reaches_quoted hc.next _ _).read fun _ _ hc => ⟨rfl, hc⟩

theorem Sound.blockScalar (h : Sound o s) : Ends o.Fails (Sound o) s.blockScalar :=
  h.dropSpot.bind fun _ hs => (Scalar.reaches_block hs.cursor.next _ _).read fun _ _ hc =>
    (hs.push (.scalar _ false) rfl).of_eq hc rfl

theorem Sound.plainScalar (h : Sound o s) : Ends o.Fails (Sound o) s.plainScalar := by
  unfold Lexer.plainScalar
  refine h.saveSpot.bind fun s hs => ?_
  have hp := Scalar.reaches_plain hs.cursor s.inFlow (s.indent + 1) (s.cursor.rest.length + 1) []
  dsimp only
  generalize Scalar.plain s.inFlow (s.indent + 1) (s.cursor.rest.length + 1) [] s.cursor = r at hp ⊢
  obtain ⟨text, c, ended⟩ := r
  exact (hs.push (.scalar text true) rfl).of_eq hp rfl

theorem Sound.directive (h : Sound o s) : Ends o.Fails (Sound o) s.directive :=
  h.boundary.bind fun _ hs => (Name.reaches_directive hs.cursor.next).read fun _ _ hc =>
    (hs.push (.directive _) rfl).of_eq hc rfl

theorem Sound.documentMark (h : Sound o s) (t : Token) (ht : t.isOrdinary = true) :
    Ends o.Fails (Sound o) (do return (← s.boundary).mark t 3) :=
  h.boundary.bind fun _ hs => hs.mark t ht 3

/-- Every way to read a token. -/
theorem Sound.tokenHere (h : Sound o s) : Ends o.Fails (Sound o) s.tokenHere := by
  have hmark : Token.isOrdinary
      (if s.cursor.here = '-' then .documentStart else .documentEnd) = true := by
    split <;> rfl
  unfold Lexer.tokenHere
  refine .ite h.directive (.ite (h.documentMark _ hmark) ?_)
  refine .ite (h.openBracket rfl) (.ite (h.openBracket rfl) ?_)
  refine .ite (h.closeBracket rfl) (.ite (h.closeBracket rfl) (.ite h.flowEntry ?_))
  refine .ite h.blockEntry (.ite h.markedKey (.ite h.value ?_))
  refine .ite (h.possibleKey (readable_reference o)) (.ite (h.possibleKey (readable_anchor o)) ?_)
  refine .ite (h.possibleKey (readable_tag o)) (.ite h.blockScalar ?_)
  exact .ite (h.possibleKey (readable_quoted o)) (.ite h.plainScalar o.fails_malformed)

theorem Sound.token (h : Sound o s) : Ends o.Fails (Sound o) s.token :=
  h.tokenHere.bind fun _ hs => hs.cursor.arrive.bind fun _ _ => hs

/-- At the next token there is text left, unless the text is not cut off. -/
theorem Sound.approach (h : Sound o s) :
    Ends o.Fails (fun s => Sound o s ∧ (s.cursor.rest ≠ [] ∨ o.beyond = none)) s.approach := by
  have hs := h.skipGaps (s.cursor.rest.length + 1)
  unfold Lexer.approach
  dsimp only
  refine hs.cursor.arrive.bind fun _ ha => ?_
  refine hs.dropStale.bind fun s' ⟨hs', hc⟩ => ⟨hs'.unwind _, ?_⟩
  rw [cursor_unwind, hc]
  exact ha

/-- What the tokens of a text are: ordinary ones, and then the end of the stream if the text is not
cut off, or a failure of reading. -/
def Possible (o : Cursor) : Token → Prop
  | .streamEnd => o.beyond = none
  | .broken f => o.Fails f
  | _ => True

theorem possible_of_isOrdinary (ht : t.isOrdinary = true) : Possible o t := by
  cases t <;> trivial

theorem Sound.possible (h : Sound o s) : ∀ t ∈ s.tokens.toList, Possible o t :=
  fun t ht => possible_of_isOrdinary (h.ordinary t (Array.mem_toList_iff.mp ht))

theorem Sound.possible_broken (h : Sound o s) {f : Failure} (hf : o.Fails f) :
    ∀ t ∈ s.settled ++ [.broken f], Possible o t := by
  intro t ht
  rcases List.mem_append.mp ht with hm | hm
  · exact h.possible t (List.mem_of_mem_take hm)
  · rw [List.mem_singleton.mp hm]
    exact hf

def Marked (o : Cursor) : Prop := ∀ x ∈ o.rest, x ≠ endMark

theorem beyond_of_here {c : Cursor} (hm : Marked o) (hc : o.Reaches c) (he : c.here = endMark)
    (ha : c.rest ≠ [] ∨ o.beyond = none) : o.beyond = none := by
  rcases ha with hr | hb
  · obtain ⟨x, r, hx⟩ := List.exists_cons_of_ne_nil hr
    have hh : c.here = x := by rw [Cursor.here, hx]; rfl
    have hx' : x ∈ o.rest := hc.rest.subset (hx ▸ List.mem_cons_self)
    exact absurd (hh.symm.trans he) (hm x hx')
  · exact hb

theorem Sound.possible_run (h : Sound o s) (hm : Marked o) (n : Nat) :
    ∀ t ∈ s.run n, Possible o t := by
  induction n generalizing s with
  | zero => exact h.possible_broken o.fails_malformed
  | succ n ih =>
    have ha := h.approach
    unfold Lexer.run
    cases hs : s.approach with
    | error f =>
      rw [hs] at ha
      exact h.possible_broken ha
    | ok near =>
      rw [hs] at ha
      obtain ⟨hn, hr⟩ := ha
      dsimp only
      split
      · rename_i he
        have hb := hn.boundary
        cases hs' : near.boundary with
        | error f =>
          rw [hs'] at hb
          exact h.possible_broken hb
        | ok last =>
          rw [hs'] at hb
          intro t ht
          rcases List.mem_append.mp ht with ht | ht
          · exact Sound.possible hb t ht
          · rw [List.mem_singleton.mp ht]
            exact beyond_of_here hm hn.cursor he hr
      · have ht := hn.token
        cases hs' : near.token with
        | error f =>
          rw [hs'] at ht
          exact h.possible_broken ht
        | ok next =>
          rw [hs'] at ht
          exact ih ht

end Lexer

/-- Every token of a text is one that it may have. -/
theorem possible_tokens {o : Cursor} (hm : Lexer.Marked o) :
    ∀ t ∈ tokens o, Lexer.Possible o t := by
  have hc : o.Reaches (if o.here = '\uFEFF' then o.next else o) := by
    split
    · exact (Cursor.Reaches.refl o).next
    · exact .refl o
  exact (Lexer.sound_ofCursor hc).possible_run hm _

end LineShell.Yaml

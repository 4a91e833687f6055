import LineShell.Proofs.Input.Stopping

namespace LineShell

theorem Shell.execute_of_tokens {sh : Shell} {line line' : String}
    (h : Line.tokens sh.settings.commentMark line = Line.tokens sh.settings.commentMark line')
    (w : World) : sh.execute w line = sh.execute w line' := by
  unfold Shell.execute
  rw [h]

theorem Shell.execute_of_skipped {sh : Shell} {line : String}
    (h : Line.tokens sh.settings.commentMark line = []) (w : World) :
    sh.execute w line = (w, .next) := by
  unfold Shell.execute
  rw [h]

namespace Input

open Text
open Files (Tree)

/-- The token lists of lines, without those of the lines that are skipped. -/
def tokenListsOf (mark : Option String) (lines : List String) : List (List String) :=
  (lines.map (Line.tokens mark)).filter fun ts => !ts.isEmpty

def tokenLists (mark : Option String) (text : List Char) : List (List String) :=
  tokenListsOf mark (scriptLines text)

section Runs

variable {sh : Shell} {w v : World} {line line' : String} {lines lines' : List String}

/-- Two runs that see the same first line, and then agree, agree. -/
theorem seen_runLines_congr (h : w.view = v.view)
    (ht : Line.tokens sh.settings.commentMark line = Line.tokens sh.settings.commentMark line')
    (number number' : Nat)
    (hrest : ∀ w' v' : World, w'.view = v'.view →
      seen (runLines sh (number + 1) lines w') = seen (runLines sh (number' + 1) lines' v')) :
    seen (runLines sh number (line :: lines) w) =
      seen (runLines sh number' (line' :: lines') v) := by
  obtain ⟨hnext, hstop⟩ := seen_runLines_cons sh line lines h number
  obtain ⟨hnext', hstop'⟩ := seen_runLines_cons sh line' lines' (rfl : v.view = v.view) number'
  rw [← Shell.execute_of_tokens ht] at hnext' hstop'
  by_cases hv : (sh.execute v line).2 = .next
  · obtain ⟨w', hw', hs⟩ := hnext hv
    obtain ⟨v', hv', hs'⟩ := hnext' hv
    rw [hs, hs']
    exact hrest w' v' (hw'.trans hv'.symm)
  · rw [hstop hv, hstop' hv]

theorem seen_runLines_filter (h : w.view = v.view) (number number' : Nat) :
    seen (runLines sh number lines w) =
      seen (runLines sh number'
        (lines.filter fun l => !(Line.tokens sh.settings.commentMark l).isEmpty) v) := by
  induction lines generalizing number number' w v with
  | nil => rw [seen, seen, List.filter_nil, runLines, runLines, h]
  | cons line lines ih =>
    cases ht : Line.tokens sh.settings.commentMark line with
    | nil =>
      have hv := Shell.execute_of_skipped ht v
      obtain ⟨w', hw', hs⟩ := (seen_runLines_cons sh _ _ h number).1 (congrArg Prod.snd hv)
      rw [hv] at hw'
      rw [hs, List.filter_cons_of_neg (by simp [ht])]
      exact ih hw' (number + 1) number'
    | cons name rest =>
      rw [List.filter_cons_of_pos (by simp [ht])]
      exact seen_runLines_congr h rfl number number'
        fun w' v' hw => ih hw (number + 1) (number' + 1)

theorem seen_runLines_of_map (h : w.view = v.view)
    (ht : lines.map (Line.tokens sh.settings.commentMark) =
      lines'.map (Line.tokens sh.settings.commentMark)) (number number' : Nat) :
    seen (runLines sh number lines w) = seen (runLines sh number' lines' v) := by
  induction lines generalizing lines' number number' w v with
  | nil =>
    cases List.map_eq_nil_iff.mp ht.symm
    rw [seen, seen, runLines, runLines, h]
  | cons line lines ih =>
    cases lines' with
    | nil => simp at ht
    | cons line' lines' =>
      rw [List.map_cons, List.map_cons] at ht
      obtain ⟨hline, hlines⟩ := List.cons.inj ht
      exact seen_runLines_congr h hline number number'
        fun w' v' hw => ih hw hlines (number + 1) (number' + 1)

/-- What lines do is settled by their token lists, those of skipped lines left out. -/
theorem runLines_of_tokenLists (h : w.view = v.view)
    (ht : tokenListsOf sh.settings.commentMark lines = tokenListsOf sh.settings.commentMark lines')
    (number number' : Nat) :
    seen (runLines sh number lines w) = seen (runLines sh number' lines' v) := by
  unfold tokenListsOf at ht
  rw [List.filter_map, List.filter_map] at ht
  exact (seen_runLines_filter h number 0).trans
    ((seen_runLines_of_map rfl ht 0 0).trans (seen_runLines_filter rfl number' 0).symm)

end Runs

section Cuts

variable {mark : Option String} {a b l l' text : List Char} {c d : Char}

theorem tokenListsOf_append (mark : Option String) (lines lines' : List String) :
    tokenListsOf mark (lines ++ lines') = tokenListsOf mark lines ++ tokenListsOf mark lines' := by
  simp [tokenListsOf]

def isBreak (c : Char) : Bool := isLineEnd c || c == '\r'

def tokenListsAt (mark : Option String) (p : Char → Bool) (text : List Char) : List (List String) :=
  tokenListsOf mark ((pieces p text).map String.ofList)

theorem tokenListsAt_append_cons {p : Char → Bool} (hc : p c = true) :
    tokenListsAt mark p (a ++ c :: b) = tokenListsAt mark p a ++ tokenListsAt mark p b := by
  rw [tokenListsAt, pieces_append_cons _ _ _ _ hc, List.map_append, tokenListsOf_append]
  rfl

theorem tokenListsAt_cons {p : Char → Bool} (hc : p c = true) :
    tokenListsAt mark p (c :: b) = tokenListsAt mark p b := by
  have h : tokenListsAt mark p ([] ++ c :: b) = _ := tokenListsAt_append_cons hc
  exact h

theorem tokenListsAt_of_none {p : Char → Bool} (h : ∀ c ∈ l, p c = false) :
    tokenListsAt mark p l = tokenListsOf mark [String.ofList l] := by
  rw [tokenListsAt, pieces_of_none _ _ h]
  rfl

/-- An empty line at the end has no tokens. -/
theorem tokenListsAt_eq_linesAt (p : Char → Bool) (text : List Char) :
    tokenListsOf mark ((linesAt p text).map String.ofList) = tokenListsAt mark p text := by
  unfold linesAt tokenListsAt
  dsimp only
  split
  · rename_i hlast
    obtain ⟨ls, hls⟩ := List.getLast?_eq_some_iff.mp hlast
    rw [hls, List.dropLast_concat, List.map_append, tokenListsOf_append]
    exact (List.append_nil _).symm
  · rfl

/-- Carriage returns end lines as line feeds do; the empty line between the two has no tokens. -/
theorem tokenListsAt_uniformNewlines (begun text : List Char)
    (hb : ∀ c ∈ begun, isBreak c = false) :
    tokenListsAt mark isLineEnd (begun ++ uniformNewlines text) =
      tokenListsAt mark isBreak (begun ++ text) := by
  have hfeed : isLineEnd '\n' = true := by decide
  have hline : ∀ l : List Char, (∀ c ∈ l, isBreak c = false) →
      tokenListsAt mark isLineEnd l = tokenListsAt mark isBreak l := by
    intro l hl
    have he : ∀ c ∈ l, isLineEnd c = false := by
      intro c hc
      have h := hl c hc
      rw [isBreak, Bool.or_eq_false_iff] at h
      exact h.1
    rw [tokenListsAt_of_none he, tokenListsAt_of_none hl]
  -- the line begun is carried along until a line end comes
  induction text generalizing begun with
  | nil =>
    have hnil : uniformNewlines [] = [] := rfl
    rw [hnil, List.append_nil]
    exact hline begun hb
  | cons c r ih =>
    have hfresh : tokenListsAt mark isLineEnd (uniformNewlines r) = tokenListsAt mark isBreak r :=
      ih [] (by simp)
    by_cases hr : c = '\r'
    · subst hr
      rw [tokenListsAt_append_cons (by decide), ← hfresh, ← hline begun hb]
      cases r with
      | nil => exact tokenListsAt_append_cons hfeed
      | cons d r =>
        by_cases hd : d = '\n'
        · subst hd
          rw [uniformNewlines_return_feed, uniformNewlines_cons (by decide),
            tokenListsAt_append_cons hfeed, tokenListsAt_cons hfeed]
        · rw [uniformNewlines_return (by simpa using hd), tokenListsAt_append_cons hfeed]
    · rw [uniformNewlines_cons hr]
      by_cases he : isLineEnd c = true
      · rw [tokenListsAt_append_cons he, tokenListsAt_append_cons (by simp [isBreak, he]),
          hfresh, hline begun hb]
      · have hlonger : ∀ x ∈ begun ++ [c], isBreak x = false := by
          intro x hx
          rcases List.mem_append.mp hx with hx | hx
          · exact hb x hx
          · rw [List.mem_singleton.mp hx]
            simp [isBreak, he, hr]
        have h := ih (begun ++ [c]) hlonger
        rwa [List.append_assoc, List.append_assoc] at h

/-- A script's text may be cut at every character that may end a line. -/
theorem tokenLists_eq_tokenListsAt (mark : Option String) (text : List Char) :
    tokenLists mark text = tokenListsAt mark isBreak text := by
  rw [tokenLists, scriptLines, lines, tokenListsAt_eq_linesAt]
  exact tokenListsAt_uniformNewlines [] text (by simp)

/-- A line end between two texts keeps their lines apart, and that is all it does. -/
theorem tokenLists_append_cons (hc : isBreak c = true) :
    tokenLists mark (a ++ c :: b) = tokenLists mark a ++ tokenLists mark b := by
  simp only [tokenLists_eq_tokenListsAt]
  exact tokenListsAt_append_cons hc

theorem tokenLists_of_none (h : ∀ c ∈ l, isBreak c = false) :
    tokenLists mark l = tokenListsOf mark [String.ofList l] := by
  rw [tokenLists_eq_tokenListsAt, tokenListsAt_of_none h]

theorem tokenLists_nil (mark : Option String) : tokenLists mark [] = [] := rfl

def StartsLine (a : List Char) : Prop := a = [] ∨ ∃ a' c, a = a' ++ [c] ∧ isBreak c = true

def EndsLine (b : List Char) : Prop := b = [] ∨ ∃ c b', b = c :: b' ∧ isBreak c = true

def InLine (l : List Char) : Prop := ∀ c ∈ l, isBreak c = false

theorem tokenLists_append_of_endsLine (hb : EndsLine b) :
    tokenLists mark (a ++ b) = tokenLists mark a ++ tokenLists mark b := by
  rcases hb with rfl | ⟨c, b, rfl, hc⟩
  · rw [List.append_nil, tokenLists_nil, List.append_nil]
  · have hfirst : tokenLists mark ([] ++ c :: b) = _ := tokenLists_append_cons hc
    rw [tokenLists_nil, List.nil_append, List.nil_append] at hfirst
    rw [tokenLists_append_cons hc, hfirst]

theorem tokenLists_append_of_startsLine (ha : StartsLine a) :
    tokenLists mark (a ++ b) = tokenLists mark a ++ tokenLists mark b := by
  rcases ha with rfl | ⟨a, c, rfl, hc⟩
  · rw [List.nil_append, tokenLists_nil, List.nil_append]
  · rw [List.append_assoc, List.singleton_append, tokenLists_append_cons hc,
      tokenLists_append_cons hc, tokenLists_nil, List.append_nil]

/-- A whole line of a text comes in with its own tokens only. -/
theorem tokenLists_line (ha : StartsLine a) (hb : EndsLine b) (hl : InLine l) :
    tokenLists mark (a ++ l ++ b) =
      tokenLists mark a ++ tokenListsOf mark [String.ofList l] ++ tokenLists mark b := by
  rw [tokenLists_append_of_endsLine hb, tokenLists_append_of_startsLine ha, tokenLists_of_none hl]

theorem InLine.append (hl : InLine l) (hl' : InLine l') : InLine (l ++ l') := by
  intro c hc
  rcases List.mem_append.mp hc with hc | hc
  · exact hl c hc
  · exact hl' c hc

structure Spaces (s : List Char) : Prop where
  inLine : InLine s
  blank : ∀ c ∈ s, isBlank c = true

/-- Texts that differ in their layout only. -/
inductive Relaid (mark : Option String) : List Char → List Char → Prop where
  /-- Another character that ends a line. -/
  | lineEnd {a b : List Char} {c d : Char} (hc : isBreak c = true) (hd : isBreak d = true) :
      Relaid mark (a ++ c :: b) (a ++ d :: b)
  /-- A line end where a line starts: a blank line, or the line feed after a carriage return. -/
  | emptyLine {a b : List Char} {c : Char} (ha : StartsLine a) (hc : isBreak c = true) :
      Relaid mark (a ++ c :: b) (a ++ b)
  /-- The line end after the last line. -/
  | finalEnd {a : List Char} {c : Char} (hc : isBreak c = true) : Relaid mark (a ++ [c]) a
  /-- A line without tokens: of white space, or a comment. -/
  | skippedLine {a b l : List Char} (ha : StartsLine a) (hb : EndsLine b) (hl : InLine l)
      (skipped : Line.tokens mark (String.ofList l) = []) : Relaid mark (a ++ l ++ b) (a ++ b)
  /-- White space around the tokens of a line. -/
  | margins {a b l left right : List Char} (ha : StartsLine a) (hb : EndsLine b) (hl : InLine l)
      (hleft : Spaces left) (hright : Spaces right) :
      Relaid mark (a ++ (left ++ l ++ right) ++ b) (a ++ l ++ b)
  /-- Other white space between two tokens of a line. -/
  | spacing {a b l r gap gap' : List Char} (ha : StartsLine a) (hb : EndsLine b) (hl : InLine l)
      (hr : InLine r) (hgap : Spaces gap) (hgap' : Spaces gap') (hne : gap ≠ [])
      (hne' : gap' ≠ []) : Relaid mark (a ++ (l ++ gap ++ r) ++ b) (a ++ (l ++ gap' ++ r) ++ b)
  | refl (text : List Char) : Relaid mark text text
  | symm {text text' : List Char} : Relaid mark text text' → Relaid mark text' text
  | trans {text text' text'' : List Char} :
      Relaid mark text text' → Relaid mark text' text'' → Relaid mark text text''

theorem tokenListsOf_of_words (h : words l = words l') :
    tokenListsOf mark [String.ofList l] = tokenListsOf mark [String.ofList l'] := by
  have ht : Line.tokens mark (String.ofList l) = Line.tokens mark (String.ofList l') := by
    unfold Line.tokens Line.words
    rw [String.toList_ofList, String.toList_ofList, h]
  rw [tokenListsOf, tokenListsOf, List.map_singleton, List.map_singleton, ht]

theorem tokenListsOf_of_skipped (h : Line.tokens mark (String.ofList l) = []) :
    tokenListsOf mark [String.ofList l] = [] := by
  rw [tokenListsOf, List.map_singleton, h]
  rfl

theorem Relaid.tokenLists_eq {text' : List Char} (h : Relaid mark text text') :
    tokenLists mark text = tokenLists mark text' := by
  induction h with
  | lineEnd hc hd => rw [tokenLists_append_cons hc, tokenLists_append_cons hd]
  | emptyLine ha hc => rw [tokenLists_append_cons hc, tokenLists_append_of_startsLine ha]
  | finalEnd hc => rw [tokenLists_append_cons hc, tokenLists_nil, List.append_nil]
  | skippedLine ha hb hl skipped =>
    rw [tokenLists_line ha hb hl, tokenListsOf_of_skipped skipped, List.append_nil,
      tokenLists_append_of_startsLine ha]
  | @margins a b l left right ha hb hl hleft hright =>
    have hwords : words (left ++ l ++ right) = words l :=
      (words_append_of_blanks hright.blank _).trans (words_blanks_append hleft.blank l)
    rw [tokenLists_line ha hb ((hleft.inLine.append hl).append hright.inLine),
      tokenLists_line ha hb hl, tokenListsOf_of_words hwords]
  | @spacing a b l r gap gap' ha hb hl hr hgap hgap' hne hne' =>
    have hwords : words (l ++ gap ++ r) = words (l ++ gap' ++ r) :=
      (words_append_blanks hne hgap.blank l r).trans (words_append_blanks hne' hgap'.blank l r).symm
    rw [tokenLists_line ha hb ((hl.append hgap.inLine).append hr),
      tokenLists_line ha hb ((hl.append hgap'.inLine).append hr), tokenListsOf_of_words hwords]
  | refl => rfl
  | symm _ ih => exact ih.symm
  | trans _ _ ih ih' => exact ih.trans ih'

end Cuts

/-- A script does what its token lists say: two scripts with the same token lists give the same
result, and show and leave the same, executed from one world once their texts are read. No change
of layout changes the token lists. -/
theorem runScript_layout (sh : Shell) :
    (∀ text text', Relaid sh.settings.commentMark text text' →
      tokenLists sh.settings.commentMark text = tokenLists sh.settings.commentMark text') ∧
    ∀ text text', tokenLists sh.settings.commentMark text =
        tokenLists sh.settings.commentMark text' →
      (∀ w, seen (runLines sh 1 (scriptLines text) w) =
        seen (runLines sh 1 (scriptLines text') w)) ∧
      ∀ (w w' : World) (path path' : String) (bytes bytes' : List UInt8), w.view = w'.view →
        w.files.read path = .ok bytes → Utf8.decode bytes = .ok text →
        w'.files.read path' = .ok bytes' → Utf8.decode bytes' = .ok text' →
        seen (runScript sh w path) = seen (runScript sh w' path') := by
  refine ⟨fun text text' h => h.tokenLists_eq, ?_⟩
  intro text text' ht
  refine ⟨fun w => runLines_of_tokenLists rfl ht 1 1, ?_⟩
  intro w w' path path' bytes bytes' hv hr hd hr' hd'
  rw [runScript_eq_runLines sh hr hd, runScript_eq_runLines sh hr' hd']
  exact runLines_of_tokenLists hv ht 1 1

/-- A comment, a blank line, an indented command and a carriage return make no difference. -/
theorem runScript_layout_commented :
    let sh := Shell.stock none
    let plain := "echo a b\nexit".toList
    let laid := "# greet\r\n\n\techo  a b\x0cexit \n".toList
    let w := World.ofFiles ((Tree.standard.set ["s", "box", "tmp"]
      (.file Files.newFileMode (Utf8.encode plain))).set ["t", "box", "tmp"]
        (.file Files.newFileMode (Utf8.encode laid)))
    tokenLists sh.settings.commentMark plain = tokenLists sh.settings.commentMark laid ∧
      w.files.read "s" = .ok (Utf8.encode plain) ∧ w.files.read "t" = .ok (Utf8.encode laid) ∧
      seen (runScript sh w "s") = seen (runScript sh w "t") := by
  intro sh plain laid w
  have ht : tokenLists sh.settings.commentMark plain =
      tokenLists sh.settings.commentMark laid := by decide
  have hr : w.files.read "s" = .ok (Utf8.encode plain) := by rfl
  have hr' : w.files.read "t" = .ok (Utf8.encode laid) := by rfl
  exact ⟨ht, hr, hr', ((runScript_layout sh).2 plain laid ht).2 w w "s" "t" _ _ rfl hr
    (Utf8.decode_encode plain) hr' (Utf8.decode_encode laid)⟩

end Input

end LineShell

import LineShell.Text.Lines

namespace LineShell.Text

variable {α β : Type _}

def lastPiece (p : α → Bool) (s : List α) : List α := (pieces p s).getLast?.getD []

theorem not_of_mem_lastPiece (p : α → Bool) (s : List α) :
    ∀ c ∈ lastPiece p s, p c = false := by
  have hl := List.getLast?_eq_some_getLast (pieces_ne_nil p s)
  rw [lastPiece, hl]
  exact not_of_mem_pieces p s _ (List.getLast_mem (pieces_ne_nil p s))

theorem pieces_append (p : α → Bool) (a b : List α) :
    pieces p (a ++ b) = (pieces p a).dropLast ++ pieces p (lastPiece p a ++ b) := by
  induction a with
  | nil => simp [pieces, lastPiece]
  | cons c r ih =>
    obtain ⟨w, ws, hr⟩ := List.exists_cons_of_ne_nil (pieces_ne_nil p r)
    rw [lastPiece, hr] at ih
    by_cases hc : p c
    · simp [pieces, lastPiece, hc, hr, ih, List.dropLast_cons_of_ne_nil]
    · cases ws with
      | nil =>
        have ih : pieces p (r ++ b) = pieces p (w ++ b) := by simpa using ih
        simp [pieces, lastPiece, hc, hr, ih]
      | cons v vs => simp [pieces, lastPiece, hc, hr, ih, List.dropLast_cons_of_ne_nil]

theorem pieces_eq_splitOn [BEq α] (x : α) (s : List α) : pieces (· == x) s = s.splitOn x := by
  induction s with
  | nil => rfl
  | cons c r ih => rw [pieces, List.splitOn_cons_eq_if_modifyHead, ih]

/-- Separators may be replaced by others before a list is cut. -/
theorem pieces_map {p : α → Bool} {q : β → Bool} {f : α → β} (h : ∀ c, q (f c) = p c)
    (s : List α) : pieces q (s.map f) = (pieces p s).map (List.map f) := by
  induction s with
  | nil => rfl
  | cons c r ih =>
    by_cases hc : p c
    · simp [pieces, h, hc, ih]
    · cases hr : pieces p r with
      | nil => exact absurd hr (pieces_ne_nil p r)
      | cons w ws => simp [pieces, h, hc, ih, hr]

theorem mem_pieces_of_mem_linesAt {p : Char → Bool} {s l : List Char} (h : l ∈ linesAt p s) :
    l ∈ pieces p s := by
  unfold linesAt at h
  dsimp only at h
  split at h
  · exact List.dropLast_subset _ h
  · exact h

/-- The line that a text ends in the middle of goes on in the text that follows. -/
theorem linesAt_append (p : Char → Bool) (a b : List Char) :
    linesAt p (a ++ b) = (pieces p a).dropLast ++ linesAt p (lastPiece p a ++ b) := by
  have hne := pieces_ne_nil p (lastPiece p a ++ b)
  have hlast : ((pieces p a).dropLast ++ pieces p (lastPiece p a ++ b)).getLast? =
      (pieces p (lastPiece p a ++ b)).getLast? := by
    rw [List.getLast?_append, List.getLast?_eq_some_getLast hne]
    rfl
  simp only [linesAt, pieces_append p a b, hlast, List.dropLast_append_of_ne_nil hne]
  split <;> rfl

theorem linesAt_map {p q : Char → Bool} {f : Char → Char}
    (h : ∀ c, q (f c) = p c) (s : List Char) :
    linesAt q (s.map f) = (linesAt p s).map (List.map f) := by
  have hlast : ((pieces p s).map (List.map f)).getLast? = some [] ↔
      (pieces p s).getLast? = some [] := by
    rw [List.getLast?_map]
    cases (pieces p s).getLast? <;> simp
  simp only [linesAt, pieces_map h, hlast, ← List.map_dropLast]
  split <;> rfl

def withFeeds (s : List Char) : List Char := s.map fun c => if isLineEnd c then '\n' else c

/-- The lines of a script are those of a stream in which every line end is a line feed. -/
theorem linesAt_withFeeds (s : List Char) : linesAt (· == '\n') (withFeeds s) = lines s := by
  have hf : ∀ c, ((if isLineEnd c then '\n' else c) == '\n') = isLineEnd c := by
    intro c
    by_cases hc : isLineEnd c
    · simp [hc]
    · have hn : c ≠ '\n' := by
        rintro rfl
        exact hc (by decide)
      simp [hc, hn]
  rw [withFeeds, linesAt_map hf, lines]
  refine (List.map_congr_left ?_).trans (List.map_id _)
  intro l hl
  refine (List.map_congr_left ?_).trans (List.map_id _)
  intro c hc
  have hn := not_of_mem_pieces isLineEnd s l (mem_pieces_of_mem_linesAt hl) c hc
  simp [hn]

/-- A text without line ends is a single line, unless it is empty. -/
theorem lines_of_none {s : List Char} (h : ∀ c ∈ s, isLineEnd c = false) :
    lines s = if s = [] then [] else [s] := by
  rw [lines, linesAt, pieces_of_none isLineEnd s h]
  simp

namespace NewlineReader

/-- A reader does not look back. -/
theorem feed_reversed (held : Bool) (a b text : List Char) :
    (mk held (a ++ b)).feed text =
      ⟨((mk held a).feed text).held, ((mk held a).feed text).reversed ++ b⟩ := by
  induction text generalizing held a with
  | nil => rfl
  | cons c r ih =>
    have hp : (mk held (a ++ b)).push c =
        ⟨((mk held a).push c).held, ((mk held a).push c).reversed ++ b⟩ := by
      unfold push
      by_cases hr : c = '\r'
      · cases held <;> simp [hr]
      · by_cases hn : c = '\n'
        · simp [hn]
        · cases held <;> simp [hr, hn]
    simp only [feed, List.foldl_cons] at ih ⊢
    rw [hp, ih]

/-- What a reader makes of a text is what it makes of the two parts, the second after the carriage
return that the first may leave. -/
theorem text_feed_append (held : Bool) (a b : List Char) :
    ((mk held []).feed (a ++ b)).text =
      ((mk held []).feed a).text ++ ((mk ((mk held []).feed a).held []).feed b).text := by
  have h := feed_reversed ((mk held []).feed a).held [] ((mk held []).feed a).reversed b
  rw [List.nil_append] at h
  rw [feed_append, h]
  simp [text]

theorem held_feed_append (held : Bool) (a b : List Char) :
    ((mk held []).feed (a ++ b)).held = ((mk ((mk held []).feed a).held []).feed b).held := by
  have h := feed_reversed ((mk held []).feed a).held [] ((mk held []).feed a).reversed b
  rw [List.nil_append] at h
  rw [feed_append, h]

theorem finish_eq (s : NewlineReader) : s.finish = s.text ++ if s.held then ['\n'] else [] := by
  cases h : s.held <;> simp [finish, text, h]

/-- What a reader has read before stays in front. -/
theorem finish_feed (held : Bool) (reversed text : List Char) :
    ((mk held reversed).feed text).finish =
      reversed.reverse ++ ((mk held []).feed text).finish := by
  have h := feed_reversed held [] reversed text
  rw [List.nil_append] at h
  rw [h]
  simp [finish_eq, NewlineReader.text]

theorem not_mem_push {s : NewlineReader} (c : Char) (h : '\r' ∉ s.reversed) :
    '\r' ∉ (s.push c).reversed := by
  unfold push
  by_cases hr : c = '\r'
  · cases hh : s.held <;> simp [hr, h]
  · by_cases hn : c = '\n'
    · simp [hn, h]
    · cases hh : s.held <;> simp [hr, hn, h, Ne.symm hr]

theorem not_mem_feed {s : NewlineReader} (text : List Char) (h : '\r' ∉ s.reversed) :
    '\r' ∉ (s.feed text).reversed := by
  induction text generalizing s with
  | nil => exact h
  | cons c r ih => exact ih (not_mem_push c h)

theorem feed_of_not_mem {text : List Char} (h : '\r' ∉ text) (reversed : List Char) :
    (mk false reversed).feed text = ⟨false, text.reverse ++ reversed⟩ := by
  induction text generalizing reversed with
  | nil => rfl
  | cons c r ih =>
    simp only [List.mem_cons, not_or] at h
    have hp : (mk false reversed).push c = mk false (c :: reversed) := by
      by_cases hn : c = '\n'
      · simp [push, hn]
      · simp [push, Ne.symm h.1, hn]
    have hf := ih h.2 (c :: reversed)
    simp only [feed, List.foldl_cons] at hf ⊢
    rw [hp, hf]
    simp

end NewlineReader

theorem uniformNewlines_cons {c : Char} (h : c ≠ '\r') (r : List Char) :
    uniformNewlines (c :: r) = c :: uniformNewlines r := by
  have hp : NewlineReader.start.push c = ⟨false, [c]⟩ := by
    by_cases hn : c = '\n'
    · simp [NewlineReader.push, NewlineReader.start, hn]
    · simp [NewlineReader.push, NewlineReader.start, h, hn]
  change ((NewlineReader.start.push c).feed r).finish = _
  rw [hp]
  exact NewlineReader.finish_feed false [c] r

/-- A carriage return and the line feed after it are one line end. -/
theorem uniformNewlines_return_feed (r : List Char) :
    uniformNewlines ('\r' :: '\n' :: r) = '\n' :: uniformNewlines r :=
  NewlineReader.finish_feed false ['\n'] r

/-- A carriage return that no line feed follows is a line end by itself. -/
theorem uniformNewlines_return {r : List Char} (h : r.head? ≠ some '\n') :
    uniformNewlines ('\r' :: r) = '\n' :: uniformNewlines r := by
  cases r with
  | nil => rfl
  | cons c r =>
    have hn : c ≠ '\n' := by simpa using h
    by_cases hr : c = '\r'
    · subst hr
      exact NewlineReader.finish_feed true ['\n'] r
    · have hp : (NewlineReader.mk true []).push c = ⟨false, [c, '\n']⟩ := by
        simp [NewlineReader.push, hr, hn]
      change (((NewlineReader.mk true []).push c).feed r).finish = _
      rw [hp, uniformNewlines_cons hr]
      exact NewlineReader.finish_feed false [c, '\n'] r

theorem not_mem_uniformNewlines (s : List Char) : '\r' ∉ uniformNewlines s := by
  have h : '\r' ∉ (NewlineReader.start.feed s).reversed :=
    NewlineReader.not_mem_feed s (by simp [NewlineReader.start])
  unfold uniformNewlines NewlineReader.finish
  split <;> simp [h]

theorem uniformNewlines_of_not_mem {s : List Char} (h : '\r' ∉ s) : uniformNewlines s = s := by
  unfold uniformNewlines NewlineReader.start
  rw [NewlineReader.feed_of_not_mem h]
  simp [NewlineReader.finish]

/-- No line end becomes a carriage return. -/
theorem not_mem_withFeeds {s : List Char} (h : '\r' ∉ s) : '\r' ∉ withFeeds s := by
  intro hm
  obtain ⟨c, hc, he⟩ := List.mem_map.mp hm
  split at he
  · exact absurd he (by decide)
  · exact h (he ▸ hc)

end LineShell.Text

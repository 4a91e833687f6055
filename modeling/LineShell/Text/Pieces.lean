namespace LineShell.Text

variable {α : Type _}

/-- The parts of a list between the elements that satisfy `p`, empty parts included. -/
def pieces (p : α → Bool) : List α → List (List α)
  | [] => [[]]
  | c :: r => if p c then [] :: pieces p r else (pieces p r).modifyHead (c :: ·)

theorem pieces_ne_nil (p : α → Bool) (s : List α) : pieces p s ≠ [] := by
  induction s with
  | nil => simp [pieces]
  | cons c r ih =>
    by_cases h : p c
    · simp [pieces, h]
    · simp [pieces, h, ih]

/-- A separator ends one piece and starts the next. -/
theorem pieces_append_cons (p : α → Bool) (s r : List α) (c : α) (hc : p c = true) :
    pieces p (s ++ c :: r) = pieces p s ++ pieces p r := by
  induction s with
  | nil => simp [pieces, hc]
  | cons d s ih =>
    by_cases h : p d
    · simp [pieces, h, ih]
    · cases hs : pieces p s with
      | nil => exact absurd hs (pieces_ne_nil p s)
      | cons w ws => simp [pieces, h, ih, hs]

/-- A list without separators is its own only piece. -/
theorem pieces_of_none (p : α → Bool) (s : List α) (h : ∀ c ∈ s, p c = false) :
    pieces p s = [s] := by
  induction s with
  | nil => rfl
  | cons c r ih =>
    have hc := h c (by simp)
    simp [pieces, hc, ih (fun d hd => h d (by simp [hd]))]

/-- No piece holds a separator. -/
theorem not_of_mem_pieces (p : α → Bool) (s : List α) :
    ∀ w ∈ pieces p s, ∀ c ∈ w, p c = false := by
  induction s with
  | nil => simp [pieces]
  | cons c r ih =>
    by_cases h : p c
    · simpa [pieces, h] using ih
    · cases hs : pieces p r with
      | nil => exact absurd hs (pieces_ne_nil p r)
      | cons w ws =>
        rw [hs] at ih
        simp only [List.mem_cons, forall_eq_or_imp] at ih
        simp [pieces, h, hs, forall_eq_or_imp] at ih ⊢
        exact ih

/-- The pieces hold every element that is not a separator, in order. -/
theorem flatten_pieces (p : α → Bool) (s : List α) :
    (pieces p s).flatten = s.filter (fun c => !p c) := by
  induction s with
  | nil => rfl
  | cons c r ih =>
    by_cases h : p c
    · simp [pieces, h, ih]
    · cases hs : pieces p r with
      | nil => exact absurd hs (pieces_ne_nil p r)
      | cons w ws =>
        rw [hs] at ih
        simpa [pieces, h, hs] using ih

end LineShell.Text

import LineShell.Text.Pieces

namespace LineShell.Text

/-- White space: the control characters that separate, the spaces of every width and the line and
paragraph separators. -/
def isBlank (c : Char) : Bool :=
  let n := c.toNat
  (9 ≤ n && n ≤ 13) || (28 ≤ n && n ≤ 32) || n == 0x85 || n == 0xA0 || n == 0x1680 ||
    (0x2000 ≤ n && n ≤ 0x200A) || n == 0x2028 || n == 0x2029 || n == 0x202F || n == 0x205F ||
    n == 0x3000

def isPadding (c : Char) : Bool := isBlank c && !(28 ≤ c.toNat && c.toNat ≤ 31)

def trim (s : List Char) : List Char :=
  ((s.dropWhile isPadding).reverse.dropWhile isPadding).reverse

def words (s : List Char) : List (List Char) :=
  (pieces isBlank s).filter (fun w => !w.isEmpty)

theorem ne_nil_of_mem_words {s w : List Char} (h : w ∈ words s) : w ≠ [] := by
  simp only [words, List.mem_filter, Bool.not_eq_true', List.isEmpty_eq_false_iff] at h
  exact h.2

theorem not_blank_of_mem_words {s w : List Char} (h : w ∈ words s) :
    ∀ c ∈ w, isBlank c = false :=
  not_of_mem_pieces isBlank s w (List.mem_filter.1 h).1

/-- Blanks at the cut neither join nor split words. -/
theorem words_append_cons (s r : List Char) (c : Char) (hc : isBlank c = true) :
    words (s ++ c :: r) = words s ++ words r := by
  simp [words, pieces_append_cons _ _ _ _ hc]

/-- Blanks in front of a text hold no words. -/
theorem words_blanks_append {blanks : List Char} (hb : ∀ c ∈ blanks, isBlank c = true)
    (s : List Char) : words (blanks ++ s) = words s := by
  induction blanks with
  | nil => rfl
  | cons c blanks ih =>
    rw [List.forall_mem_cons] at hb
    exact (words_append_cons [] (blanks ++ s) c hb.1).trans (ih hb.2)

/-- Any number of blanks between two texts keeps their words apart, and adds none. -/
theorem words_append_blanks {gap : List Char} (hgap : gap ≠ [])
    (hb : ∀ c ∈ gap, isBlank c = true) (s r : List Char) :
    words (s ++ gap ++ r) = words s ++ words r := by
  cases gap with
  | nil => contradiction
  | cons c gap =>
    rw [List.forall_mem_cons] at hb
    rw [List.append_assoc, List.cons_append, words_append_cons s _ c hb.1,
      words_blanks_append hb.2]

theorem words_append_of_blanks {blanks : List Char} (hb : ∀ c ∈ blanks, isBlank c = true)
    (s : List Char) : words (s ++ blanks) = words s := by
  by_cases hne : blanks = []
  · rw [hne, List.append_nil]
  · have h := words_append_blanks hne hb s []
    rw [List.append_nil] at h
    exact h.trans (List.append_nil _)

end LineShell.Text

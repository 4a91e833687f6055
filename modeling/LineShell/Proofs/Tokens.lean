import LineShell.Proofs.Grammar

namespace LineShell.Line

/-- A text that is these tokens, with white space between any two of them and perhaps at either
end. A text without tokens is white space. -/
inductive Parted : List String → List Char → Prop where
  | blank {s : List Char} (hb : ∀ c ∈ s, Text.isBlank c = true) : Parted [] s
  | spaced {tokens : List String} {left text : List Char}
      (hl : ∀ c ∈ left, Text.isBlank c = true) (h : Spaced tokens text) :
      Parted tokens (left ++ text)

variable {tokens rest : List String} {token : String} {s text : List Char} {c : Char}

theorem isToken_singleton (hc : Text.isBlank c = false) : IsToken (String.ofList [c]) := by
  constructor
  · intro he
    exact List.cons_ne_nil c [] (String.ofList_eq_empty_iff.mp he)
  · simpa using hc

theorem IsToken.cons (h : IsToken token) (hc : Text.isBlank c = false) :
    IsToken (String.ofList (c :: token.toList)) := by
  constructor
  · intro he
    exact List.cons_ne_nil c _ (String.ofList_eq_empty_iff.mp he)
  · rw [String.toList_ofList, List.forall_mem_cons]
    exact ⟨hc, h.2⟩

theorem Spaced.cons_char (h : Spaced tokens text) (hc : Text.isBlank c = false) :
    ∃ tokens, Spaced tokens (c :: text) := by
  cases h with
  | @last token right ht hr =>
    have hs := Spaced.last (ht.cons hc) hr
    rw [String.toList_ofList] at hs
    exact ⟨_, hs⟩
  | @cons token rest gap text ht hne hb h =>
    have hs := Spaced.cons (ht.cons hc) hne hb h
    rw [String.toList_ofList] at hs
    exact ⟨_, hs⟩

/-- A character in front of a text that is no white space is a token of its own if white space
follows it, and otherwise belongs to the first token. -/
theorem Parted.cons_char (h : Parted tokens s) (hc : Text.isBlank c = false) :
    ∃ tokens, Parted tokens (c :: s) := by
  have hnone : ∀ b ∈ ([] : List Char), Text.isBlank b = true := by simp
  cases h with
  | blank hb =>
    have hs := Spaced.last (isToken_singleton hc) hb
    rw [String.toList_ofList] at hs
    exact ⟨_, .spaced hnone hs⟩
  | @spaced _ left text hl h =>
    cases left with
    | nil =>
      obtain ⟨tokens, hs⟩ := h.cons_char hc
      exact ⟨tokens, .spaced hnone hs⟩
    | cons b left =>
      have hs := Spaced.cons (isToken_singleton hc) (List.cons_ne_nil b left) hl h
      rw [String.toList_ofList] at hs
      exact ⟨_, .spaced hnone hs⟩

theorem exists_parted (s : List Char) : ∃ tokens, Parted tokens s := by
  -- from the end of the text: each character joins what the text behind it was parted into
  induction s with
  | nil => exact ⟨[], .blank (by simp)⟩
  | cons c s ih =>
    obtain ⟨tokens, h⟩ := ih
    cases hc : Text.isBlank c with
    | false => exact h.cons_char hc
    | true =>
      cases h with
      | blank hb => exact ⟨[], .blank (List.forall_mem_cons.mpr ⟨hc, hb⟩)⟩
      | @spaced _ left text hl h =>
        have hl' : ∀ b ∈ c :: left, Text.isBlank b = true := List.forall_mem_cons.mpr ⟨hc, hl⟩
        exact ⟨tokens, .spaced hl' h⟩

theorem words_of_parted (h : Parted tokens s) : words (String.ofList s) = tokens := by
  cases h with
  | blank hb =>
    have hw : Text.words s = [] := by
      have h := Text.words_append_of_blanks hb []
      rwa [List.nil_append] at h
    rw [words, String.toList_ofList, hw]
    rfl
  | spaced hl h => exact words_of_spaced h hl

/-- Tokens written with single spaces between them are read again. -/
theorem words_intercalate (h : ∀ t ∈ tokens, IsToken t) :
    words (String.intercalate " " tokens) = tokens := by
  induction tokens with
  | nil => rfl
  | cons t r ih =>
    obtain ⟨ht, hr⟩ := List.forall_mem_cons.mp h
    cases r with
    | nil =>
      rw [String.intercalate_singleton]
      exact words_token ht
    | cons u r =>
      rw [String.intercalate_cons_cons, words_append_space, words_token ht, ih hr]
      rfl

/-- Without a comment mark, the tokens of a line are what stands between its white space, and
nothing else is. What `echo` makes of them has the same tokens. -/
theorem tokens_between_blanks (line : String) :
    Parted (Line.tokens none line) line.toList ∧
    (∀ parts, Parted parts line.toList → parts = Line.tokens none line) ∧
    ∃ text, Command.Builtin.echo.run (Line.tokens none line) = .text text ∧
      Line.tokens none text = Line.tokens none line := by
  have hunique : ∀ parts, Parted parts line.toList → parts = Line.tokens none line := by
    intro parts h
    have hw := words_of_parted h
    rw [String.ofList_toList] at hw
    rw [tokens_none, hw]
  refine ⟨?_, hunique, _, rfl, ?_⟩
  · obtain ⟨parts, h⟩ := exists_parted line.toList
    rwa [← hunique parts h]
  · rw [tokens_none, tokens_none]
    exact words_intercalate fun t ht => isToken_of_mem_words ht

/-- An em space in front, and a separator and a tab in the middle. -/
theorem tokens_between_blanks_wide :
    Parted ["echo", "a"] "\u2003echo\x1c\ta".toList ∧
      Line.tokens none "\u2003echo\x1c\ta" = ["echo", "a"] := by
  have htoken : ∀ t ∈ ["echo", "a"], IsToken t := by
    have h : ["echo", "a"].all (fun t => t ≠ "" && t.toList.all fun c => !Text.isBlank c) := by
      decide
    simpa [IsToken] using h
  have hleft : ∀ c ∈ ['\u2003'], Text.isBlank c = true := List.all_eq_true.mp (by decide)
  have hgap : ∀ c ∈ ['\x1c', '\t'], Text.isBlank c = true := List.all_eq_true.mp (by decide)
  have hs : Spaced ["echo", "a"] ("echo".toList ++ ['\x1c', '\t'] ++ ("a".toList ++ [])) :=
    .cons (htoken _ (by simp)) (by simp) hgap (.last (htoken _ (by simp)) (by simp))
  have hp : Parted ["echo", "a"] "\u2003echo\x1c\ta".toList := .spaced hleft hs
  exact ⟨hp, ((tokens_between_blanks _).2.1 _ hp).symm⟩

end LineShell.Line

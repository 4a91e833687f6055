import LineShell.Proofs.Input.Undecodable

namespace LineShell

namespace Text

variable {p : Char → Bool} {s a : List Char}

theorem isBlank_of_isLineEnd {c : Char} (h : isLineEnd c = true) : isBlank c = true := by
  simp only [isLineEnd, Bool.or_eq_true, beq_iff_eq] at h
  rcases h with (((((((rfl | rfl) | rfl) | rfl) | rfl) | rfl) | rfl) | rfl) | rfl <;> decide

theorem words_cons_blank {c : Char} (hc : isBlank c = true) (s : List Char) :
    words (c :: s) = words s :=
  words_append_cons [] s c hc

/-- No word is lost, joined or split where a text is cut at white space. -/
theorem flatMap_words_pieces (hp : ∀ c, p c = true → isBlank c = true) (begun : List Char)
    (hb : ∀ c ∈ begun, p c = false) (s : List Char) :
    (pieces p (begun ++ s)).flatMap words = words (begun ++ s) := by
  -- the piece begun is carried along until a cut comes
  induction s generalizing begun with
  | nil =>
    rw [List.append_nil, pieces_of_none p begun hb]
    exact List.append_nil _
  | cons c s ih =>
    by_cases hc : p c = true
    · have hrest : (pieces p s).flatMap words = words s := ih [] (by simp)
      rw [pieces_append_cons p begun s c hc, pieces_of_none p begun hb, List.singleton_append,
        List.flatMap_cons, hrest, words_append_cons begun s c (hp c hc)]
    · have hlonger : ∀ d ∈ begun ++ [c], p d = false := by
        intro d hd
        rcases List.mem_append.mp hd with hd | hd
        · exact hb d hd
        · rw [List.mem_singleton.mp hd]
          exact Bool.eq_false_iff.mpr hc
      have h := ih (begun ++ [c]) hlonger
      rwa [List.append_assoc] at h

/-- The empty line that is left out at the end has no words. -/
theorem flatMap_words_linesAt (hp : ∀ c, p c = true → isBlank c = true) (s : List Char) :
    (linesAt p s).flatMap words = words s := by
  have hall : (pieces p s).flatMap words = words s :=
    flatMap_words_pieces hp [] (by simp) s
  unfold linesAt
  dsimp only
  split
  · rename_i hlast
    obtain ⟨ls, hls⟩ := List.getLast?_eq_some_iff.mp hlast
    rw [hls, List.flatMap_append] at hall
    rw [hls, List.dropLast_concat]
    exact (List.append_nil _).symm.trans hall
  · exact hall

theorem uniformNewlines_append (h : '\r' ∉ a) (s : List Char) :
    uniformNewlines (a ++ s) = a ++ uniformNewlines s := by
  induction a with
  | nil => rfl
  | cons c a ih =>
    rw [List.mem_cons, not_or] at h
    rw [List.cons_append, uniformNewlines_cons (Ne.symm h.1), ih h.2, List.cons_append]

/-- A carriage return is white space, and so is the line feed that it becomes. -/
theorem words_uniformNewlines (s : List Char) : words (uniformNewlines s) = words s := by
  have hfeed : isBlank '\n' = true := by decide
  have hreturn : isBlank '\r' = true := by decide
  by_cases hs : '\r' ∈ s
  · -- up to the first carriage return the text stays as it is
    obtain ⟨a, r, he, ha⟩ := List.eq_append_cons_of_mem hs
    have hshort : r.length < s.length := by
      simp only [he, List.length_append, List.length_cons]
      omega
    rw [he, uniformNewlines_append ha, words_append_cons a r '\r' hreturn]
    by_cases hr : r.head? = some '\n'
    · obtain ⟨t, ht⟩ := List.head?_eq_some_iff.mp hr
      have hshorter : t.length < s.length := by
        rw [ht] at hshort
        exact Nat.lt_of_succ_lt hshort
      rw [ht, uniformNewlines_return_feed, words_append_cons a _ '\n' hfeed,
        words_cons_blank hfeed, words_uniformNewlines t]
    · rw [uniformNewlines_return hr, words_append_cons a _ '\n' hfeed, words_uniformNewlines r]
  · rw [uniformNewlines_of_not_mem hs]
termination_by s.length

end Text

namespace Input

open Text (Utf8.encode Utf8.decode_encode)

/-- Where every cut is made at white space, the tokens of the lines are the tokens of the text. -/
theorem flatMap_tokens_linesAt {p : Char → Bool} (hp : ∀ c, p c = true → Text.isBlank c = true)
    (text : String) :
    ((Text.linesAt p (Text.uniformNewlines text.toList)).map String.ofList).flatMap
      (Line.tokens none) = Line.tokens none text := by
  have hline : ∀ l : List Char,
      Line.tokens none (String.ofList l) = (Text.words l).map String.ofList := by
    intro l
    rw [Line.tokens_none, Line.words, String.toList_ofList]
  have hlines := Text.flatMap_words_linesAt hp (Text.uniformNewlines text.toList)
  rw [Text.words_uniformNewlines] at hlines
  simp only [List.flatMap_map, hline]
  rw [← List.map_flatMap, hlines, Line.tokens_none, Line.words]

/-- The tokens of a text are the tokens of its lines, one line after the other. This holds of the
lines of a script, and of the lines that a stream of the text is read as. -/
theorem lines_keep_tokens (text : String) :
    (scriptLines text.toList).flatMap (Line.tokens none) = Line.tokens none text ∧
      ∃ lines : List String, ofBytes (Utf8.encode text.toList) = lines.map .line ∧
        lines.flatMap (Line.tokens none) = Line.tokens none text := by
  have hfeed : ∀ c : Char, (c == '\n') = true → Text.isBlank c = true := by
    intro c hc
    rw [beq_iff_eq.mp hc]
    decide
  refine ⟨flatMap_tokens_linesAt (fun c => Text.isBlank_of_isLineEnd) text, _, ?_,
    flatMap_tokens_linesAt hfeed text⟩
  rw [ofBytes_of_decode (Utf8.decode_encode text.toList), lineReadings_eq]

/-- A tab ends no line, and a carriage return before a line feed ends one line only. -/
example : (scriptLines "a\tb\x0cc\r\n\u2028d".toList).map (Line.tokens none) =
    [["a", "b"], ["c"], [], ["d"]] := by decide

end Input

end LineShell

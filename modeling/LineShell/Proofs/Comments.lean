import LineShell.Proofs.Redirected
import LineShell.Proofs.Settings.Validation
import LineShell.Settings.Coercion
import Mathlib.Data.List.TakeWhile

namespace LineShell

namespace Text

variable {s m : List Char}

theorem words_nil : words [] = [] := rfl

theorem words_dropBlanks (s : List Char) : words (s.dropWhile isBlank) = words s := by
  have hb : ∀ c ∈ s.takeWhile isBlank, isBlank c = true := fun c hc => List.mem_takeWhile_imp hc
  have h := words_blanks_append hb (s.dropWhile isBlank)
  rw [List.takeWhile_append_dropWhile] at h
  exact h.symm

theorem words_of_none (hne : s ≠ []) (hs : ∀ c ∈ s, isBlank c = false) : words s = [s] := by
  simp [words, pieces_of_none _ _ hs, hne]

def firstWord (s : List Char) : List Char := s.takeWhile fun c => !isBlank c

/-- A text that starts with no white space starts with its first word. -/
theorem words_of_head {c : Char} {r : List Char} (hc : isBlank c = false) :
    ∃ rest, words (c :: r) = firstWord (c :: r) :: rest := by
  have hne : firstWord (c :: r) ≠ [] := by simp [firstWord, hc]
  have hword : words (firstWord (c :: r)) = [firstWord (c :: r)] := by
    refine words_of_none hne ?_
    intro d hd
    simpa using List.mem_takeWhile_imp hd
  have hsplit : firstWord (c :: r) ++ (c :: r).dropWhile (fun c => !isBlank c) = c :: r :=
    List.takeWhile_append_dropWhile
  cases hrest : (c :: r).dropWhile (fun c => !isBlank c) with
  | nil =>
    rw [hrest, List.append_nil] at hsplit
    rw [hsplit] at hword ⊢
    exact ⟨[], hword⟩
  | cons b after =>
    have hb : isBlank b = true := by
      have hn := List.head?_dropWhile_not (fun c => !isBlank c) (c :: r)
      rw [hrest] at hn
      simpa using hn
    rw [hrest] at hsplit
    refine ⟨words after, ?_⟩
    calc words (c :: r) = words (firstWord (c :: r) ++ b :: after) := by rw [hsplit]
      _ = words (firstWord (c :: r)) ++ words after := words_append_cons _ _ b hb
      _ = firstWord (c :: r) :: words after := by rw [hword]; rfl

/-- A text without white space stands at the beginning of another exactly if it stands at the
beginning of the first word. -/
theorem prefix_firstWord_iff (hm : ∀ c ∈ m, isBlank c = false) : m <+: firstWord s ↔ m <+: s := by
  constructor
  · intro h
    exact h.trans (List.takeWhile_prefix _)
  · intro h
    obtain ⟨t, rfl⟩ := h
    have hall : ∀ c ∈ m, (!isBlank c) = true := by
      intro c hc
      rw [hm c hc]
      rfl
    rw [firstWord, List.takeWhile_append_of_pos hall]
    exact List.prefix_append m _

end Text

namespace Line

variable {mark line : String}

def unindented (line : String) : List Char := line.toList.dropWhile Text.isBlank

/-- A line is blank, or its first token is what its text starts with. -/
theorem words_cases (line : String) :
    (unindented line = [] ∧ words line = []) ∨
      (unindented line ≠ [] ∧ ∃ rest,
        words line = String.ofList (Text.firstWord (unindented line)) :: rest) := by
  have hw : words line = (Text.words (unindented line)).map String.ofList := by
    rw [unindented, Text.words_dropBlanks]
    rfl
  cases hu : unindented line with
  | nil =>
    refine .inl ⟨rfl, ?_⟩
    rw [hw, hu, Text.words_nil]
    rfl
  | cons c r =>
    have hc : Text.isBlank c = false := by
      have hn := List.head?_dropWhile_not Text.isBlank line.toList
      rw [← unindented, hu] at hn
      exact hn
    obtain ⟨rest, hr⟩ := Text.words_of_head (r := r) hc
    refine .inr ⟨by simp, rest.map String.ofList, ?_⟩
    rw [hw, hu, hr]
    rfl

theorem isToken_iff_tokens : IsToken mark ↔ tokens none mark = [mark] := by
  rw [tokens_none]
  constructor
  · exact words_token
  · intro h
    have hm : mark ∈ words mark := by simp [h]
    exact isToken_of_mem_words hm

/-- The first token of a line starts with a mark exactly if the line's text does. -/
theorem isMarked_firstWord_iff (hm : IsToken mark) (s : List Char) :
    isMarked (some mark) (String.ofList (Text.firstWord s)) = true ↔ mark.toList <+: s := by
  have hp := Text.prefix_firstWord_iff (s := s) hm.2
  rw [← hp]
  simp [isMarked, hm.1]

/-- With a mark, a line has no tokens if its text starts with the mark, and otherwise those that it
has without one. -/
theorem tokens_marked (hm : IsToken mark) (line : String) :
    tokens (some mark) line = if mark.toList <+: unindented line then [] else tokens none line := by
  unfold tokens
  rcases words_cases line with ⟨-, hw⟩ | ⟨-, rest, hw⟩
  · simp [hw]
  · rw [hw]
    have hf := isMarked_firstWord_iff hm (unindented line)
    by_cases hp : mark.toList <+: unindented line
    · simp [hf.mpr hp, hp]
    · have hn : isMarked (some mark) (String.ofList (Text.firstWord (unindented line))) = false :=
        Bool.eq_false_iff.mpr fun h => hp (hf.mp h)
      rw [if_neg hp]
      dsimp only
      rw [hn, if_neg Bool.false_ne_true]
      rfl

theorem tokens_none_eq_nil_iff : tokens none line = [] ↔ unindented line = [] := by
  unfold tokens
  rcases words_cases line with ⟨hu, hw⟩ | ⟨hu, rest, hw⟩
  · simp [hu, hw]
  · simp [hu, hw, isMarked]

end Line

namespace Settings

open Files (Environment)

variable {c : Coercions} {environment : Environment} {values : List (String × Value)}
  {s : Settings} {mark : String}

/-- Giving a comment mark in addition changes the mark and nothing else, or is the only problem. -/
theorem validate_cons_mark (h : Validates c environment values s) (v : Value) :
    validate c environment (("comment_prefix", v) :: values) =
      match toMark c v with
      | .ok mark => .ok { s with commentMark := mark }
      | .error issue => .error (.problems [⟨"comment_prefix", issue, v⟩]) := by
  have hgives : ∀ {α : Type} {name : String} {default a : α} {read : Value → Except Issue α},
      name ≠ "comment_prefix" → Gives values name default read a →
      setting (("comment_prefix", v) :: values) name default read = .ok a :=
    fun hn hg => setting_eq_ok_iff.mpr (hg.added hn v)
  have hpath : toHistoryFile c environment ((("comment_prefix", v) :: values).lookup
      "history_file") = .ok (.ok s.historyFile) := by
    rw [lookup_added (by decide) v]
    exact h.historyFile
  have hfile : setting (("comment_prefix", v) :: values) "history_file"
      (Except.toOption (ε := Issue) (.ok s.historyFile)).join (fun _ => .ok s.historyFile) =
        .ok s.historyFile := by
    unfold setting
    split <;> rfl
  have hmark : setting (("comment_prefix", v) :: values) "comment_prefix" (some "#") (toMark c) =
      match toMark c v with
      | .ok mark => .ok mark
      | .error issue => .error ⟨"comment_prefix", issue, v⟩ := by
    cases h : toMark c v <;> simp [setting, h]
  have hstrange : (((("comment_prefix", v) :: values).filter fun v => !names.contains v.1).map
      fun v => Problem.mk v.1 .unknown v.2) = [] := by
    rw [List.map_eq_nil_iff, List.filter_eq_nil_iff]
    intro value hm
    have hk := known_added h.known (by decide) v value hm
    simpa using hk
  unfold validate
  rw [hpath]
  dsimp only
  rw [hfile, hgives (by decide) h.prompt, hgives (by decide) h.strictRedirection,
    hgives (by decide) h.ignoreInterrupts, hgives (by decide) h.historyLength, hstrange, hmark]
  cases toMark c v with
  | ok mark => rfl
  | error issue => rfl

theorem isMark_iff_tokens : isMark mark = true ↔ Line.tokens none mark = [mark] :=
  isMark_iff.trans Line.isToken_iff_tokens

/-- A text is accepted as a comment mark exactly if it is a token, and then nothing but the mark
changes; if not, this is the problem. A line has no tokens under an accepted mark if without the
white space in front it is empty or starts with the mark. Otherwise it has the tokens that it has
without comments. -/
theorem comment_mark_meaning (lawful : c.Lawful) (environment : Environment) (mark : String) :
    (∀ values s, validate c environment values = .ok s →
      let given := validate c environment (("comment_prefix", .text mark) :: values)
      ((∃ s', given = .ok s') ↔ Line.tokens none mark = [mark]) ∧
      (∀ s', given = .ok s' → s' = { s with commentMark := some mark }) ∧
      (Line.tokens none mark ≠ [mark] → given = .error (.problems
        [⟨"comment_prefix", .badMark (Text.Literal.ofString mark), .text mark⟩]))) ∧
    (∀ values s, validate c environment values = .ok s → s.commentMark = some mark →
      Line.tokens none mark = [mark]) ∧
    (Line.tokens none mark = [mark] → ∀ line,
      (Line.tokens (some mark) line = [] ↔
        Line.unindented line = [] ∨ mark.toList <+: Line.unindented line) ∧
      (Line.tokens (some mark) line ≠ [] →
        Line.tokens (some mark) line = Line.tokens none line)) := by
  refine ⟨?_, ?_, ?_⟩
  · intro values s hs given
    have hgiven := validate_cons_mark (validate_eq_ok_iff.mp hs) (.text mark)
    rw [toMark_text lawful] at hgiven
    by_cases hm : isMark mark = true
    · have ht := isMark_iff_tokens.mp hm
      rw [if_pos hm] at hgiven
      refine ⟨⟨fun _ => ht, fun _ => ⟨_, hgiven⟩⟩, ?_, fun hn => absurd ht hn⟩
      intro s' hs'
      exact Except.ok.inj (hs'.symm.trans hgiven)
    · have ht : Line.tokens none mark ≠ [mark] := fun h => hm (isMark_iff_tokens.mpr h)
      rw [if_neg hm] at hgiven
      refine ⟨⟨?_, fun h => absurd h ht⟩, ?_, fun _ => hgiven⟩
      · rintro ⟨s', hs'⟩
        cases hs'.symm.trans hgiven
      · intro s' hs'
        cases hs'.symm.trans hgiven
  · intro values s hs hmark
    exact Line.isToken_iff_tokens.mp ((validate_eq_ok_iff.mp hs).valid mark hmark)
  · intro ht line
    have hlast := Line.tokens_marked (Line.isToken_iff_tokens.mpr ht) line
    by_cases hp : mark.toList <+: Line.unindented line
    · rw [if_pos hp] at hlast
      exact ⟨⟨fun _ => .inr hp, fun _ => hlast⟩, fun hn => absurd hlast hn⟩
    · rw [if_neg hp] at hlast
      refine ⟨?_, fun _ => hlast⟩
      rw [hlast, Line.tokens_none_eq_nil_iff]
      exact ⟨.inl, fun h => h.resolve_right hp⟩

/-- Two slashes are a mark; two letters with a wide space between them are none. -/
theorem comment_mark_meaning_slashes :
    let bare : Environment := .ofVariables []
    (∃ s', validate .lax bare [("comment_prefix", .text "//"), ("history_file", .null)] = .ok s' ∧
        s'.commentMark = some "//") ∧
      Line.tokens (some "//") "\t\u2003//x y" = [] ∧
      Line.tokens (some "//") "/ // b" = ["/", "//", "b"] ∧
      ∀ s', validate .lax bare [("comment_prefix", .text "a\u2003b"), ("history_file", .null)] ≠
        .ok s' := by
  intro bare
  have meaning := comment_mark_meaning Coercions.lawful_lax bare
  have base : validate .lax bare [("history_file", .null)] = .ok Settings.default := rfl
  have slashes : Line.tokens none "//" = ["//"] := by decide +kernel
  have apart : Line.tokens none "a\u2003b" ≠ ["a\u2003b"] := by decide +kernel
  obtain ⟨haccepted, -, hmeaning⟩ := meaning "//"
  obtain ⟨hiff, hset, -⟩ := haccepted _ _ base
  obtain ⟨s', hs'⟩ := hiff.mpr slashes
  refine ⟨⟨s', hs', by rw [hset s' hs']⟩, ?_, ?_, ?_⟩
  · exact (hmeaning slashes _).1.mpr (.inr (by decide +kernel))
  · have hkept := (hmeaning slashes "/ // b").2 (by decide +kernel)
    exact hkept.trans (by decide +kernel)
  · intro s' h
    exact apart (((meaning _).1 _ _ base).1.mp ⟨s', h⟩)

end Settings

end LineShell

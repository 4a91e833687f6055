import LineShell.Proofs.Redirected

namespace LineShell

namespace Line

variable {tokens : List String}

/-- A text that is these tokens with white space between them, and perhaps after them. -/
inductive Spaced : List String → List Char → Prop where
  | last {token : String} {right : List Char} (ht : IsToken token)
      (hr : ∀ c ∈ right, Text.isBlank c = true) : Spaced [token] (token.toList ++ right)
  | cons {token : String} {rest : List String} {gap text : List Char} (ht : IsToken token)
      (hne : gap ≠ []) (hb : ∀ c ∈ gap, Text.isBlank c = true) (h : Spaced rest text) :
      Spaced (token :: rest) (token.toList ++ gap ++ text)

theorem words_of_spaced {text left : List Char} (h : Spaced tokens text)
    (hl : ∀ c ∈ left, Text.isBlank c = true) : words (String.ofList (left ++ text)) = tokens := by
  have hw : (Text.words text).map String.ofList = tokens := by
    induction h with
    | last ht hr =>
      rw [Text.words_append_of_blanks hr]
      exact words_token ht
    | @cons token rest gap text ht hne hb _ ih =>
      rw [Text.words_append_blanks hne hb, List.map_append, ih]
      exact congrArg (· ++ rest) (words_token ht)
  rw [words, String.toList_ofList, Text.words_blanks_append hl, hw]

/-- White space around and between the tokens of a line is all that parts them. -/
theorem tokens_of_spaced {mark : Option String} {name : String} {rest : List String}
    {text left : List Char} (hm : isMarked mark name = false) (h : Spaced (name :: rest) text)
    (hl : ∀ c ∈ left, Text.isBlank c = true) :
    Line.tokens mark (String.ofList (left ++ text)) = name :: rest := by
  rw [Line.tokens, words_of_spaced h hl]
  simp [hm]

end Line

namespace Shell

variable {sh : Shell} {w : World} {line name : String} {rest : List String}

/-- A refused line notes and shows its reason, and that is all it does. -/
theorem execute_of_refused {e : RedirectionError}
    (ht : Line.tokens sh.settings.commentMark line = name :: rest)
    (h : Line.Refuses sh.settings.strictRedirection rest e) :
    sh.execute w line =
      ((w.note (.redirectionRejected e.message)).complain e.message, .next) := by
  rw [execute, ht]
  dsimp only
  rw [h.redirection_eq]
  rfl

/-- The tokens after a command name are parsed as the grammar says, and refused in all other cases,
for the reason that it gives. A parsed line does what its command does with these arguments and
this target; a refused one shows its reason on standard error, whatever its command, the search path
and the programs, and changes nothing. Any white space may stand between the tokens of a line, and
around them. -/
theorem line_grammar (settings : Settings) :
    (∀ line name rest, Line.tokens settings.commentMark line = name :: rest →
      (∀ r, Line.redirection settings.strictRedirection rest = .ok r ↔
        Line.Parses settings.strictRedirection rest r) ∧
      (∀ e, Line.redirection settings.strictRedirection rest = .error e ↔
        Line.Refuses settings.strictRedirection rest e) ∧
      ∀ searchPath programs,
        let sh : Shell := ⟨settings, searchPath, programs⟩
        (∀ r files, Line.Parses settings.strictRedirection rest r →
          sh.course files line = sh.commandCourse files name r.target r.args) ∧
        ∀ e w, Line.Refuses settings.strictRedirection rest e →
          sh.execute w line =
            ((w.note (.redirectionRejected e.message)).complain e.message, .next) ∧
          (sh.execute w line).1.view = w.view.complain e.message) ∧
    (RedirectionError.repeated.message = "multiple redirections not supported" ∧
      RedirectionError.missingPath.message = "file path not found" ∧
      ∀ token, (RedirectionError.trailing token).message =
        "unexpected argument after redirection path: " ++ token) ∧
    ∀ name rest text left, Line.isMarked settings.commentMark name = false →
      Line.Spaced (name :: rest) text → (∀ c ∈ left, Text.isBlank c = true) →
      Line.tokens settings.commentMark (String.ofList (left ++ text)) = name :: rest := by
  refine ⟨?_, ⟨rfl, rfl, fun token => rfl⟩, ?_⟩
  · intro line name rest ht
    refine ⟨fun r => Line.redirection_eq_ok_iff, fun e => Line.redirection_eq_error_iff, ?_⟩
    intro searchPath programs sh
    refine ⟨fun r files hr => course_of_parses ht hr, ?_⟩
    intro e w he
    have hx : sh.execute w line = _ := execute_of_refused ht he
    refine ⟨hx, ?_⟩
    rw [hx, World.view_complain, World.view_note]
  · intro name rest text left hm hs hl
    exact Line.tokens_of_spaced hm hs hl

/-- A token after the path, without a search path and with a command that would end the shell. -/
theorem line_grammar_exit :
    Line.tokens Settings.default.commentMark "exit > out now" = ["exit", ">", "out", "now"] ∧
      ((stock none).execute (World.ofFiles Files.Tree.standard) "exit > out now").1.view =
        ⟨Files.Tree.standard, "", "unexpected argument after redirection path: now\n"⟩ ∧
      ((stock none).execute (World.ofFiles Files.Tree.standard) "exit > out now").2 = .next := by
  have ht : Line.tokens Settings.default.commentMark "exit > out now" =
      "exit" :: [">", "out", "now"] := by decide +kernel
  have he : Line.Refuses true ([] ++ [Line.marker, "out"] ++ "now" :: []) (.trailing "now") :=
    .trailing rfl (by decide) (by decide) (by decide)
  obtain ⟨hx, hv⟩ := (((line_grammar Settings.default).1 _ _ _ ht).2.2 none
    (stock none).programs).2 _ (World.ofFiles Files.Tree.standard) he
  refine ⟨ht, ?_, congrArg Prod.snd hx⟩
  refine hv.trans ?_
  rfl

end Shell

end LineShell

import LineShell.Proofs.Effect
import LineShell.Proofs.Redirected
import LineShell.Proofs.Text.Recoding

namespace LineShell

open Files (Tree hasNull)
open Text (Utf8.encode Utf8.decode Utf8.Flaw)

namespace Files.Tree

variable {t : Tree} {path : String}

theorem read_eq_null_iff : t.read path = .error .nullCharacter ↔ hasNull path = true := by
  unfold read
  by_cases h : hasNull path = true
  · simp [h]
  · rw [if_neg h]
    constructor
    · intro hr
      split at hr <;> cases hr
    · intro hn
      exact absurd hn h

inductive Unreadable (t : Tree) (path : String) : Cause → Prop where
  | refused {cause : Cause} (named : hasNull path = false) (read : t.read path = .error cause) :
      Unreadable t path cause
  | undecodable {bytes : List UInt8} {flaw : Utf8.Flaw} (read : t.read path = .ok bytes)
      (decoded : Utf8.decode bytes = .error flaw) : Unreadable t path (.undecodable flaw)

/-- A file gives a text, or there is a reason why it does not. -/
theorem text_or_unreadable (t : Tree) (path : String) :
    (∃ text, t.read path = .ok (Utf8.encode text)) ∨ (∃ cause, t.Unreadable path cause) ∨
      hasNull path = true := by
  cases hr : t.read path with
  | error cause =>
    cases hn : hasNull path with
    | false => exact .inr (.inl ⟨cause, .refused hn hr⟩)
    | true => exact .inr (.inr rfl)
  | ok bytes =>
    cases hd : Utf8.decode bytes with
    | error flaw => exact .inr (.inl ⟨_, .undecodable hr hd⟩)
    | ok text => exact .inl ⟨text, by rw [Text.Utf8.encode_of_decode hd]⟩

end Files.Tree

namespace Input

variable {sh : Shell} {w : World} {path : String}

/-- The lines that are executed are known from the files at the start. -/
theorem seen_runLines (sh : Shell) (w : World) (number : Nat) (lines : List String) :
    let run := runLines sh number lines w
    run.1.view = (sh.executeAll w (sh.reached w.files lines)).view ∧
      (run.2 = .status 0 ∨ run.2 = .fatal .pathNotSet) := by
  intro run
  rcases Shell.continues_or_stopsAt sh w lines with h | ⟨before, line, after, rfl, h⟩
  · have hs := runLines_of_continues rfl h number
    rw [Shell.reached_of_continues h]
    exact ⟨congrArg Prod.fst hs, .inl (congrArg Prod.snd hs)⟩
  · have hs := runLines_of_stopsAt rfl h number after
    rw [Shell.reached_of_stopsAt h]
    refine ⟨congrArg Prod.fst hs, ?_⟩
    have hending : run.2 = (sh.execute (sh.executeAll w before) line).2.ending :=
      congrArg Prod.snd hs
    rw [hending]
    rcases Shell.verdict_eq_of_ne_next h.2 with hv | hv
    · exact .inl (by rw [hv]; rfl)
    · exact .inr (by rw [hv]; rfl)

theorem runScript_of_text {text : List Char} (h : w.files.read path = .ok (Utf8.encode text)) :
    runScript sh w path = runLines sh 1 (scriptLines text) w :=
  runScript_eq_runLines sh h (Text.Utf8.decode_encode text)

theorem runScript_of_null (h : hasNull path = true) :
    runScript sh w path = (w, .unhandled .nullCharacter) := by
  rw [runScript, Tree.read_eq_null_iff.mpr h]

theorem runScript_of_unreadable {cause : Cause} (h : w.files.Unreadable path cause) :
    runScript sh w path = (w, .fatal (.input path (some cause))) := by
  unfold runScript
  cases h with
  | refused named read =>
    rw [read]
    cases cause with
    | nullCharacter =>
      have hn := Tree.read_eq_null_iff.mp read
      rw [named] at hn
      cases hn
    | _ => rfl
  | undecodable read decoded =>
    rw [read]
    dsimp only
    rw [decoded]

/-- If the file of a script holds a text, the lines of this text are executed, up to the first that
ends the shell, whatever becomes of the file meanwhile. If not, nothing changes, and the run ends
with an error that names the path and says why. Only a null character in the path is not reported
that way. -/
theorem runScript_whole (sh : Shell) (w : World) (path : String) :
    let run := runScript sh w path
    (∀ text, w.files.read path = .ok (Utf8.encode text) →
      let done := sh.reached w.files (scriptLines text)
      done <+: scriptLines text ∧
        (sh.Continues w (scriptLines text) → done = scriptLines text) ∧
        run.1.view = (sh.executeAll w done).view ∧
        (run.2 = .status 0 ∨ run.2 = .fatal .pathNotSet)) ∧
    ((∀ text, w.files.read path ≠ .ok (Utf8.encode text)) → run.1 = w ∧
      ((∃ cause, w.files.Unreadable path cause ∧ run.2 = .fatal (.input path (some cause)) ∧
          (FatalError.input path (some cause)).message =
            "failed to read " ++ path ++ ": " ++ cause.description) ∨
        (hasNull path = true ∧ run.2 = .unhandled .nullCharacter))) ∧
    ((∃ failure, run.2 = .unhandled failure) ↔ hasNull path = true) := by
  intro run
  have hwhole : ∀ text, w.files.read path = .ok (Utf8.encode text) →
      run.1.view = (sh.executeAll w (sh.reached w.files (scriptLines text))).view ∧
        (run.2 = .status 0 ∨ run.2 = .fatal .pathNotSet) := by
    intro text ht
    have hrun : run = runLines sh 1 (scriptLines text) w := runScript_of_text ht
    rw [hrun]
    exact seen_runLines sh w 1 _
  refine ⟨?_, ?_, ?_, ?_⟩
  · intro text ht
    obtain ⟨hview, hending⟩ := hwhole text ht
    exact ⟨Shell.prefix_reached _ _, Shell.reached_of_continues, hview, hending⟩
  · intro hnone
    rcases w.files.text_or_unreadable path with ⟨text, ht⟩ | ⟨cause, hu⟩ | hn
    · exact absurd ht (hnone text)
    · have hrun : run = (w, .fatal (.input path (some cause))) := runScript_of_unreadable hu
      rw [hrun]
      exact ⟨rfl, .inl ⟨cause, hu, rfl, rfl⟩⟩
    · have hrun : run = (w, .unhandled .nullCharacter) := runScript_of_null hn
      rw [hrun]
      exact ⟨rfl, .inr ⟨hn, rfl⟩⟩
  · rintro ⟨failure, hf⟩
    rcases w.files.text_or_unreadable path with ⟨text, ht⟩ | ⟨cause, hu⟩ | hn
    · rcases (hwhole text ht).2 with h | h
      · exact nomatch hf.symm.trans h
      · exact nomatch hf.symm.trans h
    · have hrun : run = (w, .fatal (.input path (some cause))) := runScript_of_unreadable hu
      rw [hrun] at hf
      cases hf
    · exact hn
  · intro hn
    have hrun : run = (w, .unhandled .nullCharacter) := runScript_of_null hn
    exact ⟨.nullCharacter, congrArg Prod.snd hrun⟩

/-- The first line puts `exit` into the script, and the second is executed all the same. -/
theorem runScript_whole_overwritten :
    let sh := Shell.stock none
    let text := "echo exit > s\necho b".toList
    let w := World.ofFiles
      (Tree.standard.set ["s", "box", "tmp"] (.file Files.newFileMode (Utf8.encode text)))
    let run := runScript sh w "s"
    w.files.read "s" = .ok (Utf8.encode text) ∧
      sh.reached w.files (scriptLines text) = ["echo exit > s", "echo b"] ∧
      run.1.files.read "s" = .ok (Utf8.encode "exit".toList) ∧ run.1.view.stdout = "b\n" := by
  intro sh text w run
  have ho : w.files.target "s" =
      .ok (.file ["s", "box", "tmp"] Files.newFileMode (Utf8.encode text)) := rfl
  have hread : w.files.read "s" = .ok (Utf8.encode text) := by
    have ht : Tree.standard.target "s" = .ok (.file ["s", "box", "tmp"] Files.newFileMode []) :=
      rfl
    exact Tree.read_set ht _
  have hlines : scriptLines text = ["echo exit > s", "echo b"] := by decide
  have hfirst : ∀ files, sh.course files "echo exit > s" = .answered (some "s") files "exit" := by
    have hp : sh.parsed? "echo exit > s" = some ("echo", ⟨some "s", ["exit"], []⟩) := by
      decide +kernel
    intro files
    rw [Shell.course_of_parsed hp]
    rfl
  have hsecond : ∀ files, sh.course files "echo b" = .answered none files "b" := by
    intro files
    rfl
  have hcontinues : sh.Continues w (scriptLines text) := by
    rw [hlines]
    refine Shell.continues_cons_iff.mpr ⟨?_, Shell.continues_cons_iff.mpr ⟨?_, ?_⟩⟩
    · rw [Shell.verdict_execute, hfirst]
      rfl
    · rw [Shell.verdict_execute, hsecond]
      rfl
    · exact Shell.continues_nil
  obtain ⟨-, hall, hview, -⟩ := (runScript_whole sh w "s").1 text hread
  have hreached := hall hcontinues
  rw [hreached, hlines] at hview
  have hstore : (sh.execute w "echo exit > s").1.view = w.view.store "s" "exit" := by
    rw [Shell.view_execute, hfirst]
    rfl
  obtain ⟨hstdout, -, hexit, -⟩ := View.of_view_eq_store hstore ho
  have hrun : run.1.view = (sh.execute w "echo exit > s").1.view.print ("b" ++ "\n") := by
    rw [hview]
    change (sh.execute (sh.execute w "echo exit > s").1 "echo b").1.view = _
    rw [Shell.view_execute, hsecond]
    rfl
  refine ⟨hread, hreached.trans hlines, ?_, ?_⟩
  · have hfiles : run.1.files = (sh.execute w "echo exit > s").1.files := congrArg View.files hrun
    rw [hfiles]
    exact hexit
  · rw [hrun, View.stdout_print, hstdout]
    rfl

/-- A path that the system cannot be asked about is not reported as a script that cannot be
read. -/
theorem runScript_null_unreported :
    ¬ ∀ (sh : Shell) (w : World) (path : String),
      (∃ text, w.files.read path = .ok (Utf8.encode text)) ∨
        ∃ cause, (runScript sh w path).2 = .fatal (.input path cause) := by
  intro hall
  have hn : hasNull "a\x00b" = true := by decide
  rcases hall (Shell.stock none) (World.ofFiles Tree.standard) "a\x00b" with
    ⟨text, ht⟩ | ⟨cause, hr⟩
  · rw [Tree.read_eq_null_iff.mpr hn] at ht
    cases ht
  · rw [runScript_of_null hn] at hr
    cases hr

end Input

end LineShell

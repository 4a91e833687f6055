import LineShell.Proofs.Input.Runners
import LineShell.Proofs.Outcome

namespace LineShell

open Files (Tree)

namespace Shell

/-- The world after lines that are executed in order, whatever follows each of them. -/
def executeAll (sh : Shell) (w : World) (lines : List String) : World :=
  lines.foldl (fun w line => (sh.execute w line).1) w

/-- Each of the lines, when its turn comes, is followed by the next. -/
def Continues (sh : Shell) (w : World) (lines : List String) : Prop :=
  ∀ before line after, lines = before ++ line :: after →
    (sh.execute (sh.executeAll w before) line).2 = .next

/-- After the lines before it, this line is the first that ends the shell. -/
def StopsAt (sh : Shell) (w : World) (before : List String) (line : String) : Prop :=
  sh.Continues w before ∧ (sh.execute (sh.executeAll w before) line).2 ≠ .next

variable {sh : Shell} {w : World} {line : String} {lines before : List String}

theorem continues_nil : sh.Continues w [] := by
  intro before line after h
  simp at h

theorem continues_cons_iff :
    sh.Continues w (line :: lines) ↔
      (sh.execute w line).2 = .next ∧ sh.Continues (sh.execute w line).1 lines := by
  constructor
  · intro h
    refine ⟨h [] line lines rfl, ?_⟩
    rintro before l after rfl
    exact h (line :: before) l after rfl
  · rintro ⟨hline, hlines⟩ before l after he
    cases before with
    | nil =>
      cases he
      exact hline
    | cons first before =>
      cases he
      exact hlines before l after rfl

theorem stopsAt_cons_iff {first : String} :
    sh.StopsAt w (first :: before) line ↔
      (sh.execute w first).2 = .next ∧ sh.StopsAt (sh.execute w first).1 before line := by
  rw [StopsAt, continues_cons_iff, and_assoc]
  exact Iff.rfl

/-- All lines are executed, or one of them is the first to end the shell. -/
theorem continues_or_stopsAt (sh : Shell) (w : World) (lines : List String) :
    sh.Continues w lines ∨
      ∃ before line after, lines = before ++ line :: after ∧ sh.StopsAt w before line := by
  induction lines generalizing w with
  | nil => exact .inl continues_nil
  | cons line lines ih =>
    by_cases hline : (sh.execute w line).2 = .next
    · rcases ih (sh.execute w line).1 with h | ⟨before, l, after, rfl, hs⟩
      · exact .inl (continues_cons_iff.mpr ⟨hline, h⟩)
      · exact .inr ⟨line :: before, l, after, rfl, stopsAt_cons_iff.mpr ⟨hline, hs⟩⟩
    · exact .inr ⟨[], line, lines, rfl, continues_nil, hline⟩

inductive Fails (sh : Shell) (files : Tree) (line : String) : Prop where
  /-- Its redirection is malformed. -/
  | malformed {name : String} {rest : List String}
      (tokens : Line.tokens sh.settings.commentMark line = name :: rest)
      (redirection : ¬ Line.WellFormed sh.settings.strictRedirection rest)
  /-- Its command is not found. -/
  | notFound {name : String} {r : Line.Redirection} (parsed : sh.parsed? line = some (name, r))
      (resolution : Command.resolve files sh.searchPath name = .ok .notFound)
  /-- Its program is not started, or ends with a status other than zero. -/
  | program {name path : String} {r : Line.Redirection} {e : ProcessError}
      (parsed : sh.parsed? line = some (name, r))
      (resolution : Command.resolve files sh.searchPath name = .ok (.external path))
      (result : (Command.run sh.programs files path r.args).result = .error e)
  /-- Its command succeeds, and its target cannot be written. -/
  | unwritable {path : String} (success : sh.Succeeds files line)
      (target : sh.target? line = some path)
      (unopened : ¬ (sh.filesLeft files line).OpensFile path)

/-- Only `exit` ends the shell, or a search path that is not set. -/
theorem verdict_of_resolve {files : Tree} {name : String} {r : Line.Redirection}
    {resolution : Command.Resolution} (hp : sh.parsed? line = some (name, r))
    (hr : Command.resolve files sh.searchPath name = .ok resolution)
    (hne : resolution ≠ .builtin .exit) : (sh.course files line).verdict = .next := by
  rw [course_of_parsed hp, commandCourse, hr]
  rcases resolution with (_ | _) | path | _
  · rfl
  · exact absurd rfl hne
  · dsimp only
    split <;> rfl
  · rfl

theorem verdict_of_fails (h : sh.Fails w.files line) : (sh.execute w line).2 = .next := by
  rw [verdict_execute]
  cases h with
  | malformed ht hw =>
    unfold course
    rw [ht]
    dsimp only
    cases hr : Line.redirection sh.settings.strictRedirection _ with
    | error e => rfl
    | ok r => exact absurd (Line.redirection_ok_iff.mp ⟨r, hr⟩) hw
  | notFound hp hr => exact verdict_of_resolve hp hr (by simp)
  | program hp hr _ => exact verdict_of_resolve hp hr (by simp)
  | unwritable hs _ _ =>
    rcases course_outcome sh w.files line with ⟨-, h⟩ | ⟨-, e, h⟩ | ⟨-, h⟩ | ⟨-, text, h⟩ |
      ⟨h, -⟩
    · rw [h]; rfl
    · rw [h]; rfl
    · exact absurd hs h
    · rw [h]; rfl
    · exact absurd hs h

theorem verdict_eq_of_ne_next (h : (sh.execute w line).2 ≠ .next) :
    (sh.execute w line).2 = .exit 0 ∨ (sh.execute w line).2 = .fatal .pathNotSet := by
  rw [verdict_execute] at h ⊢
  cases hc : sh.course w.files line with
  | exits => exact .inl rfl
  | stopped => exact .inr rfl
  | _ =>
    rw [hc] at h
    exact absurd rfl h

end Shell

namespace Input

open Text

variable {sh : Shell} {w v : World} {line : String} {lines before after : List String}

/-- A run as its user sees it: what there is to see at its end, and how it ended. -/
def seen (run : World × Ending) : View × Ending := (run.1.view, run.2)

/-- One step of a run: a line is executed, and the others only if the next one follows it. -/
theorem seen_runLines_cons (sh : Shell) (line : String) (lines : List String)
    (h : w.view = v.view) (number : Nat) :
    ((sh.execute v line).2 = .next → ∃ w' : World, w'.view = (sh.execute v line).1.view ∧
        seen (runLines sh number (line :: lines) w) = seen (runLines sh (number + 1) lines w')) ∧
      ((sh.execute v line).2 ≠ .next → seen (runLines sh number (line :: lines) w) =
        ((sh.execute v line).1.view, (sh.execute v line).2.ending)) := by
  -- the two worlds may differ in their logs, so only what they show is compared
  obtain ⟨hview, hverdict⟩ := numbered_congr sh number h line
  rw [runLines_cons, hverdict]
  constructor
  · intro hn
    exact ⟨_, hview, by rw [if_pos hn]⟩
  · intro hn
    rw [if_neg hn, seen, view_closed, hview]

theorem runLines_of_continues (h : w.view = v.view) (hc : sh.Continues v lines) (number : Nat) :
    seen (runLines sh number lines w) = ((sh.executeAll v lines).view, .status 0) := by
  induction lines generalizing number w v with
  | nil =>
    rw [seen, runLines, h]
    rfl
  | cons line lines ih =>
    obtain ⟨hline, hlines⟩ := Shell.continues_cons_iff.mp hc
    obtain ⟨w', hw', hs⟩ := (seen_runLines_cons sh _ _ h number).1 hline
    rw [hs]
    exact ih hw' hlines (number + 1)

/-- A script is executed up to the first line that ends the shell, and ends as that line says. -/
theorem runLines_of_stopsAt (h : w.view = v.view) (hs : sh.StopsAt v before line) (number : Nat)
    (after : List String) :
    seen (runLines sh number (before ++ line :: after) w) =
      ((sh.executeAll v (before ++ [line])).view,
        (sh.execute (sh.executeAll v before) line).2.ending) := by
  induction before generalizing number w v with
  | nil => exact (seen_runLines_cons sh _ _ h number).2 hs.2
  | cons first before ih =>
    obtain ⟨hfirst, hrest⟩ := Shell.stopsAt_cons_iff.mp hs
    obtain ⟨w', hw', hstep⟩ := (seen_runLines_cons sh _ _ h number).1 hfirst
    rw [List.cons_append, hstep]
    exact ih hw' hrest (number + 1)

/-- What follows the line that ends the shell makes no difference, not even to the log. -/
theorem runLines_stop_congr (h : w.view = v.view) (hs : sh.StopsAt v before line) (number : Nat)
    (after others : List String) :
    runLines sh number (before ++ line :: after) w =
      runLines sh number (before ++ line :: others) w := by
  induction before generalizing number w v with
  | nil =>
    have hne : (numbered sh number w line).2 ≠ .next := by
      rw [(numbered_congr sh number h line).2]
      exact hs.2
    rw [List.nil_append, List.nil_append, runLines_cons, runLines_cons, if_neg hne, if_neg hne]
  | cons first before ih =>
    obtain ⟨hfirst, hrest⟩ := Shell.stopsAt_cons_iff.mp hs
    obtain ⟨hview, hverdict⟩ := numbered_congr sh number h first
    rw [List.cons_append, List.cons_append, runLines_cons, runLines_cons, hverdict, if_pos hfirst,
      if_pos hfirst]
    exact ih hview hrest (number + 1)

/-- A script runs to its end, or to the first line that ends the shell. What is seen then is what
the lines up to there do one after the other, and whatever else might follow that line makes no
difference. The run ends with status 0, unless that line lacks a search path. A line that fails is
never that line. -/
theorem runScript_stops {path : String} {bytes : List UInt8} {text : List Char}
    (hr : w.files.read path = .ok bytes) (hd : Utf8.decode bytes = .ok text) :
    let lines := scriptLines text
    let run := runScript sh w path
    (sh.Continues w lines ∨ ∃ before line after,
        lines = before ++ line :: after ∧ sh.StopsAt w before line) ∧
      (sh.Continues w lines →
        run.2 = .status 0 ∧ run.1.view = (sh.executeAll w lines).view) ∧
      (∀ before line after, lines = before ++ line :: after → sh.StopsAt w before line →
        run.1.view = (sh.executeAll w (before ++ [line])).view ∧
          (((sh.execute (sh.executeAll w before) line).2 = .exit 0 ∧ run.2 = .status 0) ∨
            ((sh.execute (sh.executeAll w before) line).2 = .fatal .pathNotSet ∧
              run.2 = .fatal .pathNotSet)) ∧
          ∀ others, runLines sh 1 (before ++ line :: others) w = run) ∧
      ∀ v line, sh.Fails v.files line → (sh.execute v line).2 = .next := by
  intro lines run
  have hrun : run = runLines sh 1 lines w := runScript_eq_runLines sh hr hd
  refine ⟨Shell.continues_or_stopsAt sh w lines, ?_, ?_, fun v line => Shell.verdict_of_fails⟩
  · intro hc
    have hs := runLines_of_continues rfl hc 1
    rw [← hrun] at hs
    exact ⟨congrArg Prod.snd hs, congrArg Prod.fst hs⟩
  · intro before line after hl hs
    have hseen := runLines_of_stopsAt rfl hs 1 after
    rw [← hl, ← hrun] at hseen
    have hending : run.2 = (sh.execute (sh.executeAll w before) line).2.ending :=
      congrArg Prod.snd hseen
    refine ⟨congrArg Prod.fst hseen, ?_, ?_⟩
    · rw [hending]
      rcases Shell.verdict_eq_of_ne_next hs.2 with hv | hv
      · exact .inl ⟨hv, by rw [hv]; rfl⟩
      · exact .inr ⟨hv, by rw [hv]; rfl⟩
    · intro others
      rw [hrun, hl]
      exact runLines_stop_congr rfl hs 1 others after

/-- The second line ends the shell, so the third is not executed. -/
theorem runScript_stops_second :
    let sh := Shell.stock none
    let text := "echo a\nexit now\nnope > f".toList
    let w := World.ofFiles
      (Tree.standard.set ["s", "box", "tmp"] (.file Files.newFileMode (Utf8.encode text)))
    w.files.read "s" = .ok (Utf8.encode text) ∧
      scriptLines text = ["echo a"] ++ "exit now" :: ["nope > f"] ∧
      sh.StopsAt w ["echo a"] "exit now" ∧
      (runScript sh w "s").1.view = ⟨w.files, "a\n", ""⟩ ∧
      (runScript sh w "s").2 = .status 0 ∧
      ∀ others, runLines sh 1 (["echo a"] ++ "exit now" :: others) w = runScript sh w "s" := by
  intro sh text w
  have hr : w.files.read "s" = .ok (Utf8.encode text) := by
    have ht : Tree.standard.target "s" = .ok (.file ["s", "box", "tmp"] Files.newFileMode []) :=
      rfl
    exact Tree.read_set ht _
  have hl : scriptLines text = ["echo a"] ++ "exit now" :: ["nope > f"] := by decide
  have hecho : ∀ files, sh.course files "echo a" = .answered none files "a" := by
    intro files
    rfl
  have hexit : ∀ files, sh.course files "exit now" = .exits := by
    intro files
    rfl
  have hs : sh.StopsAt w ["echo a"] "exit now" := by
    constructor
    · refine Shell.continues_cons_iff.mpr ⟨?_, Shell.continues_nil⟩
      rw [Shell.verdict_execute, hecho]
      rfl
    · rw [Shell.verdict_execute, hexit]
      simp [Course.verdict]
  obtain ⟨hview, hending, htail⟩ :=
    (runScript_stops hr (Utf8.decode_encode text)).2.2.1 _ _ _ hl hs
  refine ⟨hr, hl, hs, ?_, ?_, htail⟩
  · rw [hview]
    change (sh.execute (sh.execute w "echo a").1 "exit now").1.view = _
    rw [Shell.view_execute, hexit, Shell.view_execute, hecho]
    rfl
  · rcases hending with ⟨-, h⟩ | ⟨h, -⟩
    · exact h
    · rw [Shell.verdict_execute, hexit] at h
      cases h

end Input

end LineShell

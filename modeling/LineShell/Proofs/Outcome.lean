import LineShell.Proofs.Containment

namespace LineShell

open Files (Tree)

namespace Command

/-- A program gives text if it can be started and ends with status zero. -/
theorem run_eq_ok_iff {programs : Programs} {files : Tree} {path text : String}
    {args : List String} :
    (run programs files path args).result = .ok text ↔
      (∀ a ∈ path :: args, Files.hasNull a = false) ∧
        ∃ out err files', programs files (path :: args) = .ended 0 out err files' ∧
          captured out = text := by
  unfold run
  dsimp only
  by_cases hnull : (path :: args).any Files.hasNull = true
  · rw [if_pos hnull]
    constructor
    · intro h
      cases h
    · rintro ⟨h, -⟩
      obtain ⟨a, ha, hn⟩ := List.any_eq_true.mp hnull
      rw [h a ha] at hn
      cases hn
  · rw [if_neg hnull]
    have hfree : ∀ a ∈ path :: args, Files.hasNull a = false := by
      intro a ha
      cases hn : Files.hasNull a with
      | false => rfl
      | true => exact absurd (List.any_eq_true.mpr ⟨a, ha, hn⟩) hnull
    cases programs files (path :: args) with
    | refused fault => simp
    | ended status out err files' =>
      by_cases hs : status = 0
      · subst hs
        simpa using fun _ => hfree
      · simp [hs]

theorem resolve_eq_builtin_iff {files : Tree} {searchPath : Option String} {name : String}
    {b : Builtin} : resolve files searchPath name = .ok (.builtin b) ↔ name = b.name := by
  have hb : Builtin.ofName? name = some b ↔ name = b.name := by
    unfold Builtin.ofName?
    cases b <;> grind [Builtin.name]
  rw [← hb]
  unfold resolve
  cases Builtin.ofName? name with
  | some c => simp
  | none =>
    cases program? files searchPath name with
    | error e => simp
    | ok found => cases found <;> simp

end Command

namespace Shell

/-- The name of a line's command, and what is left of its tokens once the redirection is taken
off; none if the line is skipped or its redirection is malformed. -/
def parsed? (sh : Shell) (line : String) : Option (String × Line.Redirection) :=
  match Line.tokens sh.settings.commentMark line with
  | [] => none
  | name :: rest =>
    (Line.redirection sh.settings.strictRedirection rest).toOption.map fun r => (name, r)

def target? (sh : Shell) (line : String) : Option String :=
  (sh.parsed? line).bind fun p => p.2.target

/-- The files that a command leaves, before its text goes anywhere. -/
def commandFiles (sh : Shell) (files : Tree) (name : String) (args : List String) : Tree :=
  match Command.resolve files sh.searchPath name with
  | .ok (.external path) => (Command.run sh.programs files path args).files
  | _ => files

/-- The files that the command of a line leaves, before its text goes anywhere. -/
def filesLeft (sh : Shell) (files : Tree) (line : String) : Tree :=
  match sh.parsed? line with
  | some (name, r) => sh.commandFiles files name r.args
  | none => files

/-- A command succeeds if it is `echo`, or a program that is started and ends with status zero. -/
def CommandSucceeds (sh : Shell) (files : Tree) (name : String) (args : List String) : Prop :=
  name = "echo" ∨
    ∃ path out err files', Command.resolve files sh.searchPath name = .ok (.external path) ∧
      (∀ a ∈ path :: args, Files.hasNull a = false) ∧
      sh.programs files (path :: args) = .ended 0 out err files'

/-- The command of a line succeeds, whether or not its text gets anywhere. -/
def Succeeds (sh : Shell) (files : Tree) (line : String) : Prop :=
  ∃ name r, sh.parsed? line = some (name, r) ∧ sh.CommandSucceeds files name r.args

variable {sh : Shell} {files : Tree} {line name : String} {target : Option String}
  {args rest : List String} {r : Line.Redirection}

theorem commandSucceeds_iff_of_external {path : String}
    (h : Command.resolve files sh.searchPath name = .ok (.external path)) :
    sh.CommandSucceeds files name args ↔
      ∃ text, (Command.run sh.programs files path args).result = .ok text := by
  have hecho : name ≠ "echo" := by
    rintro rfl
    cases h
  simp only [CommandSucceeds, hecho, false_or, Command.run_eq_ok_iff, h]
  constructor
  · rintro ⟨_, out, err, files', hp, hn, he⟩
    cases hp
    exact ⟨_, hn, out, err, files', he, rfl⟩
  · rintro ⟨_, hn, out, err, files', he, -⟩
    exact ⟨path, out, err, files', rfl, hn, he⟩

/-- A command ends the shell, or it leaves files and gives a text if it succeeds and an error if
not. -/
theorem commandCourse_outcome (sh : Shell) (files : Tree) (name : String)
    (target : Option String) (args : List String) :
    ((sh.commandCourse files name target args).verdict ≠ .next ∧
        ¬ sh.CommandSucceeds files name args) ∨
      (sh.CommandSucceeds files name args ∧ ∃ text, sh.commandCourse files name target args =
        .answered target (sh.commandFiles files name args) text) ∨
      (¬ sh.CommandSucceeds files name args ∧ ∃ e, sh.commandCourse files name target args =
        .failed target (sh.commandFiles files name args) e) := by
  unfold commandCourse commandFiles
  cases hr : Command.resolve files sh.searchPath name with
  | error e =>
    refine .inl ⟨by simp [Course.verdict], ?_⟩
    rintro (rfl | ⟨path, _, _, _, hp, -⟩)
    · cases hr
    · cases hr.symm.trans hp
  | ok resolution =>
    cases resolution with
    | builtin b =>
      have hname : name = b.name := Command.resolve_eq_builtin_iff.mp hr
      cases b with
      | exit =>
        refine .inl ⟨by simp [Course.verdict], ?_⟩
        rintro (h | ⟨path, _, _, _, hp, -⟩)
        · rw [hname] at h
          exact absurd h (by decide)
        · cases hr.symm.trans hp
      | echo => exact .inr (.inl ⟨.inl hname, _, rfl⟩)
    | notFound =>
      refine .inr (.inr ⟨?_, _, rfl⟩)
      rintro (rfl | ⟨path, _, _, _, hp, -⟩)
      · cases hr
      · cases hr.symm.trans hp
    | external path =>
      dsimp only
      have hs : sh.CommandSucceeds files name args ↔
          ∃ text, (Command.run sh.programs files path args).result = .ok text :=
        commandSucceeds_iff_of_external hr
      cases hres : (Command.run sh.programs files path args).result with
      | ok text => exact .inr (.inl ⟨hs.mpr ⟨_, hres⟩, _, rfl⟩)
      | error e =>
        refine .inr (.inr ⟨fun h => ?_, _, rfl⟩)
        obtain ⟨text, ht⟩ := hs.mp h
        cases hres.symm.trans ht

theorem parsed?_eq_some_iff :
    sh.parsed? line = some (name, r) ↔
      ∃ rest, Line.tokens sh.settings.commentMark line = name :: rest ∧
        Line.redirection sh.settings.strictRedirection rest = .ok r := by
  unfold parsed?
  cases Line.tokens sh.settings.commentMark line with
  | nil => simp
  | cons first rest =>
    dsimp only
    cases hr : Line.redirection sh.settings.strictRedirection rest with
    | error e => grind [Except.toOption]
    | ok r => grind [Except.toOption]

theorem course_of_parsed (h : sh.parsed? line = some (name, r)) :
    sh.course files line = sh.commandCourse files name r.target r.args := by
  obtain ⟨rest, ht, hr⟩ := parsed?_eq_some_iff.mp h
  unfold course
  rw [ht]
  dsimp only
  rw [hr]

theorem succeeds_iff_of_parsed (h : sh.parsed? line = some (name, r)) :
    sh.Succeeds files line ↔ sh.CommandSucceeds files name r.args := by
  constructor
  · rintro ⟨_, _, h', hc⟩
    cases h.symm.trans h'
    exact hc
  · intro hc
    exact ⟨name, r, h, hc⟩

/-- What a line comes to, told by its tokens: it is skipped or rejected, it ends the shell, or its
command leaves files and gives the target a text. -/
theorem course_outcome (sh : Shell) (files : Tree) (line : String) :
    (Line.tokens sh.settings.commentMark line = [] ∧ sh.course files line = .skipped) ∨
      (sh.parsed? line = none ∧ ∃ e, sh.course files line = .rejected e) ∨
      ((sh.course files line).verdict ≠ .next ∧ ¬ sh.Succeeds files line) ∨
      (sh.Succeeds files line ∧ ∃ text, sh.course files line =
        .answered (sh.target? line) (sh.filesLeft files line) text) ∨
      (¬ sh.Succeeds files line ∧ ∃ e, sh.course files line =
        .failed (sh.target? line) (sh.filesLeft files line) e) := by
  cases hp : sh.parsed? line with
  | some p =>
    obtain ⟨name, r⟩ := p
    have htarget : sh.target? line = r.target := by simp [target?, hp]
    have hfiles : sh.filesLeft files line = sh.commandFiles files name r.args := by
      simp [filesLeft, hp]
    rw [course_of_parsed hp, succeeds_iff_of_parsed hp, htarget, hfiles]
    exact .inr (.inr (commandCourse_outcome sh files name r.target r.args))
  | none =>
    unfold course
    cases ht : Line.tokens sh.settings.commentMark line with
    | nil => exact .inl ⟨rfl, rfl⟩
    | cons name rest =>
      dsimp only
      cases hr : Line.redirection sh.settings.strictRedirection rest with
      | error e => exact .inr (.inl ⟨rfl, e, rfl⟩)
      | ok r => cases hp.symm.trans (parsed?_eq_some_iff.mpr ⟨rest, ht, hr⟩)

end Shell

end LineShell

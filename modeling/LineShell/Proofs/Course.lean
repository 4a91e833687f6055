import LineShell.Proofs.View
import LineShell.Shell

namespace LineShell

open Command (Resolution)
open Files (Tree)

/-- What a line comes to. -/
inductive Course where
  /-- Blank or a comment. -/
  | skipped
  /-- Its redirection is malformed. -/
  | rejected (error : RedirectionError)
  /-- A search path is needed, and none is set. -/
  | stopped
  | exits
  /-- Its command leaves these files and gives this text. -/
  | answered (target : Option String) (files : Tree) (text : String)
  /-- Its command leaves these files and fails. -/
  | failed (target : Option String) (files : Tree) (error : LineError)
deriving Repr, DecidableEq

namespace Shell

/-- A shell under the usual settings, on a machine that starts no program. -/
def stock (searchPath : Option String) : Shell :=
  ⟨Settings.default, searchPath, fun _ _ => .refused .notExecutable⟩

def commandCourse (sh : Shell) (files : Tree) (name : String) (target : Option String)
    (args : List String) : Course :=
  match Command.resolve files sh.searchPath name with
  | .error _ => .stopped
  | .ok (.builtin .exit) => .exits
  | .ok (.builtin .echo) => .answered target files (String.intercalate " " args)
  | .ok .notFound => .failed target files (.notFound name)
  | .ok (.external path) =>
    let r := Command.run sh.programs files path args
    match r.result with
    | .ok text => .answered target r.files text
    | .error e => .failed target r.files (.external e)

def course (sh : Shell) (files : Tree) (line : String) : Course :=
  match Line.tokens sh.settings.commentMark line with
  | [] => .skipped
  | name :: rest =>
    match Line.redirection sh.settings.strictRedirection rest with
    | .error e => .rejected e
    | .ok r => sh.commandCourse files name r.target r.args

end Shell

namespace View

/-- Makes a file hold exactly this text; a file that cannot be written is complained of. -/
def store (v : View) (path text : String) : View :=
  match v.files.write path (Text.Utf8.encode text.toList) with
  | .ok files => { v with files := files }
  | .error cause => v.complain (LineError.unwritable path cause).message

def deliver (v : View) (target : Option String) (text : String) : View :=
  match target with
  | none => v.print (text ++ "\n")
  | some path => v.store path text

def report (v : View) (target : Option String) (message : String) : View :=
  match target with
  | none => v.complain message
  | some path => v.store path message

end View

namespace Course

def shown (v : View) : Course → View
  | .skipped | .stopped | .exits => v
  | .rejected e => v.complain e.message
  | .answered target files text => { v with files := files }.deliver target text
  | .failed target files e => { v with files := files }.report target e.message

def verdict : Course → Verdict
  | .stopped => .fatal .pathNotSet
  | .exits => .exit 0
  | _ => .next

end Course

namespace World

@[simp] theorem notes_nil (w : World) : w.notes [] = w := by
  simp [notes, add]

@[simp] theorem view_notes (w : World) (es : List Log.Event) : (w.notes es).view = w.view := by
  induction es generalizing w with
  | nil =>
    rw [notes, List.map_nil, view_add]
    simp [view, Transcript.stdout, Transcript.errors]
  | cons e es ih =>
    have h : w.notes (e :: es) = (w.note e).notes es := by
      simp [notes, note, add]
    rw [h, ih, view_note]

theorem files_note (w : World) (e : Log.Event) : (w.note e).files = w.files := rfl

theorem files_notes (w : World) (es : List Log.Event) : (w.notes es).files = w.files := rfl

/-- A text that is kept is kept unseen; one that is not leaves the reason. -/
theorem save_eq (w : World) (path text : String) :
    w.save path text =
      match w.files.write path (Text.Utf8.encode text.toList) with
      | .ok files => ({ w.note (.writing text.length path) with files := files }, none)
      | .error cause =>
        (w.note (.writing text.length path), some (.unwritable path cause)) := rfl

@[simp] theorem view_report (w : World) (target : Option String) (e : LineError) :
    (w.report target e).view = w.view.report target e.message := by
  cases target with
  | none => exact view_complain w e.message
  | some path =>
    simp only [report, View.report, View.store, save_eq, files_view]
    cases w.files.write path (Text.Utf8.encode e.message.toList) with
    | ok files => simp
    | error cause => simp

@[simp] theorem view_deliver (w : World) (target : Option String) (text : String) :
    (w.deliver target text).view = w.view.deliver target text := by
  cases target with
  | none => exact view_print w (text ++ "\n")
  | some path =>
    simp only [deliver, View.deliver, View.store, save_eq, files_view]
    cases w.files.write path (Text.Utf8.encode text.toList) with
    | ok files => simp
    | error cause => simp

end World

namespace Command

theorem program?_eq_error {files : Tree} {searchPath : Option String} {name : String}
    {e : FatalError} (h : program? files searchPath name = .error e) : e = .pathNotSet := by
  unfold program? at h
  split at h
  · cases h
  · split at h <;> cases h
    rfl

/-- A missing search path is all that a resolution can fail for. -/
theorem resolve_eq_error {files : Tree} {searchPath : Option String} {name : String}
    {e : FatalError} (h : resolve files searchPath name = .error e) : e = .pathNotSet := by
  unfold resolve at h
  split at h
  · cases h
  · split at h <;> cases h
    exact program?_eq_error (by assumption)

end Command

namespace Shell

/-- Carrying out a command shows its course. -/
theorem perform_eq_course (sh : Shell) (w : World) (name : String) (target : Option String)
    (args : List String) :
    (sh.perform w name target args).1.view =
        (sh.commandCourse w.files name target args).shown w.view ∧
      (sh.perform w name target args).2 =
        (sh.commandCourse w.files name target args).verdict := by
  unfold perform commandCourse
  cases hr : Command.resolve w.files sh.searchPath name with
  | error e =>
    cases Command.resolve_eq_error hr
    exact ⟨rfl, rfl⟩
  | ok resolution =>
    have hw : { w.view with files := w.files } = w.view := rfl
    cases resolution with
    | builtin b =>
      cases b <;> simp [carryOut, Command.Builtin.run, Course.shown, Course.verdict, hw]
    | notFound => simp [carryOut, Course.shown, Course.verdict, hw]
    | external path =>
      simp only [carryOut, World.files_note, World.files_notes]
      cases (Command.run sh.programs w.files path args).result with
      | ok text => simp [Course.shown, Course.verdict]
      | error e => simp [Course.shown, Course.verdict]

theorem execute_eq_course (sh : Shell) (w : World) (line : String) :
    (sh.execute w line).1.view = (sh.course w.files line).shown w.view ∧
      (sh.execute w line).2 = (sh.course w.files line).verdict := by
  unfold execute course
  cases Line.tokens sh.settings.commentMark line with
  | nil => exact ⟨rfl, rfl⟩
  | cons name rest =>
    dsimp only
    cases Line.redirection sh.settings.strictRedirection rest with
    | error e => simp [Course.shown, Course.verdict, View.report, LineError.message]
    | ok r =>
      dsimp only
      split
      · exact perform_eq_course sh w name r.target r.args
      · have h := perform_eq_course sh (w.note (.tokensDropped r.dropped)) name r.target r.args
        rwa [World.files_note, World.view_note] at h

/-- What a command comes to does not depend on where its text is to go. -/
theorem commandCourse_cases (sh : Shell) (files : Tree) (name : String) (args : List String) :
    (∀ target, sh.commandCourse files name target args = .stopped) ∨
      (∀ target, sh.commandCourse files name target args = .exits) ∨
      (∃ files' text, ∀ target,
        sh.commandCourse files name target args = .answered target files' text) ∨
      ∃ files' e, ∀ target,
        sh.commandCourse files name target args = .failed target files' e := by
  unfold commandCourse
  cases Command.resolve files sh.searchPath name with
  | error e => exact .inl fun _ => rfl
  | ok resolution =>
    cases resolution with
    | builtin b =>
      cases b with
      | exit => exact .inr (.inl fun _ => rfl)
      | echo => exact .inr (.inr (.inl ⟨_, _, fun _ => rfl⟩))
    | notFound => exact .inr (.inr (.inr ⟨_, _, fun _ => rfl⟩))
    | external path =>
      dsimp only
      cases (Command.run sh.programs files path args).result with
      | ok text => exact .inr (.inr (.inl ⟨_, _, fun _ => rfl⟩))
      | error e => exact .inr (.inr (.inr ⟨_, _, fun _ => rfl⟩))

/-- A command fails because it is not found, or as a program. -/
theorem course_failed {sh : Shell} {files files' : Tree} {line : String}
    {target : Option String} {e : LineError}
    (h : sh.course files line = .failed target files' e) :
    (∃ name, e = .notFound name) ∨ ∃ error, e = .external error := by
  unfold course at h
  split at h
  · cases h
  · split at h
    · cases h
    · unfold commandCourse at h
      split at h <;> try cases h
      · exact .inl ⟨_, rfl⟩
      · dsimp only at h
        split at h <;> cases h
        exact .inr ⟨_, rfl⟩

/-- What is seen after a line is what its course shows. -/
theorem view_execute (sh : Shell) (w : World) (line : String) :
    (sh.execute w line).1.view = (sh.course w.files line).shown w.view :=
  (execute_eq_course sh w line).1

/-- What follows a line is the verdict of its course. -/
theorem verdict_execute (sh : Shell) (w : World) (line : String) :
    (sh.execute w line).2 = (sh.course w.files line).verdict :=
  (execute_eq_course sh w line).2

end Shell

end LineShell

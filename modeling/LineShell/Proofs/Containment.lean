import LineShell.Files.Home
import LineShell.Proofs.Course
import LineShell.Proofs.Redirection

namespace LineShell

open Files (Environment Tree)

/-- All that the second world has over the first are notes, of no urgency. -/
def OnlyNoted (before after : World) : Prop :=
  ∃ events : List Log.Event, (∀ e ∈ events, e.level = .debug) ∧ after = before.notes events

namespace OnlyNoted

theorem refl (w : World) : OnlyNoted w w := by
  refine ⟨[], by simp, ?_⟩
  simp [World.notes, World.add]

theorem trans {w₁ w₂ w₃ : World} (h : OnlyNoted w₁ w₂) (h' : OnlyNoted w₂ w₃) :
    OnlyNoted w₁ w₃ := by
  obtain ⟨earlier, he, rfl⟩ := h
  obtain ⟨later, hl, rfl⟩ := h'
  refine ⟨earlier ++ later, ?_, ?_⟩
  · intro e hm
    rcases List.mem_append.mp hm with hm | hm
    · exact he e hm
    · exact hl e hm
  · simp [World.notes, World.add]

theorem notes {before after : World} (h : OnlyNoted before after) {events : List Log.Event}
    (hd : ∀ e ∈ events, e.level = .debug) : OnlyNoted before (after.notes events) :=
  h.trans ⟨events, hd, rfl⟩

theorem note {before after : World} (h : OnlyNoted before after) {e : Log.Event}
    (hd : e.level = .debug) : OnlyNoted before (after.note e) :=
  h.trans ⟨[e], by simpa using hd, rfl⟩

/-- Notes are not seen. -/
theorem view_eq {before after : World} (h : OnlyNoted before after) :
    after.view = before.view := by
  obtain ⟨events, -, rfl⟩ := h
  exact World.view_notes before events

end OnlyNoted

namespace Command

variable {files : Tree} {searchPath : Option String} {name : String}

theorem ofName?_eq_none_iff : Builtin.ofName? name = none ↔ name ≠ "echo" ∧ name ≠ "exit" := by
  unfold Builtin.ofName?
  split
  · simp [*]
  · split <;> simp [*]

theorem isLiteral_eq_false_iff :
    isLiteral files name = false ↔ ¬ ('/' ∈ name.toList ∧ files.has name = true) := by
  simp [isLiteral]

theorem program?_eq_error_iff :
    program? files searchPath name = .error .pathNotSet ↔
      isLiteral files name = false ∧ searchPath = none := by
  unfold program?
  cases hl : isLiteral files name with
  | true => simp
  | false => cases searchPath <;> simp

/-- A resolution fails if all that is left to try is a search path that is not set. -/
theorem resolve_eq_error_iff :
    resolve files searchPath name = .error .pathNotSet ↔
      name ≠ "echo" ∧ name ≠ "exit" ∧ isLiteral files name = false ∧ searchPath = none := by
  rw [← and_assoc, ← ofName?_eq_none_iff, ← program?_eq_error_iff]
  unfold resolve
  cases Builtin.ofName? name with
  | some b => simp
  | none =>
    cases program? files searchPath name with
    | error e => simp
    | ok found => cases found <;> simp

theorem resolve_eq_exit_iff :
    resolve files searchPath name = .ok (.builtin .exit) ↔ name = "exit" := by
  unfold resolve Builtin.ofName?
  by_cases hecho : name = "echo"
  · simp [hecho]
  · by_cases hexit : name = "exit"
    · simp [hexit]
    · simp only [hecho, hexit, if_false, iff_false]
      cases program? files searchPath name with
      | error e => simp
      | ok found => cases found <;> simp

end Command

namespace Shell

variable {sh : Shell} {files : Tree} {line name : String} {target : Option String}
  {args : List String}

theorem commandCourse_eq_stopped_iff :
    sh.commandCourse files name target args = .stopped ↔
      Command.resolve files sh.searchPath name = .error .pathNotSet := by
  unfold commandCourse
  cases hr : Command.resolve files sh.searchPath name with
  | error e => simp [Command.resolve_eq_error hr]
  | ok resolution =>
    rcases resolution with (_ | _) | path | _ <;> try simp
    cases (Command.run sh.programs files path args).result <;> simp

theorem commandCourse_eq_exits_iff :
    sh.commandCourse files name target args = .exits ↔
      Command.resolve files sh.searchPath name = .ok (.builtin .exit) := by
  unfold commandCourse
  cases hr : Command.resolve files sh.searchPath name with
  | error e => simp
  | ok resolution =>
    rcases resolution with (_ | _) | path | _ <;> try simp
    cases (Command.run sh.programs files path args).result <;> simp

/-- A course other than those of blank and rejected lines is that of the line's command. -/
theorem course_eq_iff {c : Course} (hs : c ≠ .skipped) (hr : ∀ e, c ≠ .rejected e) :
    sh.course files line = c ↔
      ∃ name rest r, Line.tokens sh.settings.commentMark line = name :: rest ∧
        Line.redirection sh.settings.strictRedirection rest = .ok r ∧
        sh.commandCourse files name r.target r.args = c := by
  unfold course
  cases Line.tokens sh.settings.commentMark line with
  | nil => simp [Ne.symm hs]
  | cons name rest =>
    dsimp only
    cases hrest : Line.redirection sh.settings.strictRedirection rest with
    | error e => simp [Ne.symm (hr e), hrest]
    | ok r =>
      constructor
      · intro hc
        exact ⟨name, rest, r, rfl, hrest, hc⟩
      · rintro ⟨_, _, r', ht, hr', hc⟩
        cases ht
        cases hrest.symm.trans hr'
        exact hc

theorem course_eq_stopped_iff :
    sh.course files line = .stopped ↔
      ∃ name rest, Line.tokens sh.settings.commentMark line = name :: rest ∧
        Line.WellFormed sh.settings.strictRedirection rest ∧
        name ≠ "echo" ∧ name ≠ "exit" ∧ Command.isLiteral files name = false ∧
        sh.searchPath = none := by
  rw [course_eq_iff (by simp) (by simp)]
  simp only [commandCourse_eq_stopped_iff, Command.resolve_eq_error_iff,
    ← Line.redirection_ok_iff]
  constructor
  · rintro ⟨name, rest, r, ht, hr, h⟩
    exact ⟨name, rest, ht, ⟨r, hr⟩, h⟩
  · rintro ⟨name, rest, ht, ⟨r, hr⟩, h⟩
    exact ⟨name, rest, r, ht, hr, h⟩

theorem course_eq_exits_iff :
    sh.course files line = .exits ↔
      ∃ rest, Line.tokens sh.settings.commentMark line = "exit" :: rest ∧
        Line.WellFormed sh.settings.strictRedirection rest := by
  rw [course_eq_iff (by simp) (by simp)]
  simp only [commandCourse_eq_exits_iff, Command.resolve_eq_exit_iff, ← Line.redirection_ok_iff]
  constructor
  · rintro ⟨name, rest, r, ht, hr, rfl⟩
    exact ⟨rest, ht, r, hr⟩
  · rintro ⟨rest, ht, r, hr⟩
    exact ⟨"exit", rest, r, ht, hr, rfl⟩

theorem perform_onlyNoted (w : World) (h : (sh.perform w name target args).2 ≠ .next) :
    OnlyNoted w (sh.perform w name target args).1 := by
  rw [(perform_eq_course sh w name target args).2] at h
  unfold perform
  cases hc : sh.commandCourse w.files name target args with
  | stopped =>
    rw [commandCourse_eq_stopped_iff.mp hc]
    exact .refl w
  | exits =>
    rw [commandCourse_eq_exits_iff.mp hc]
    have hw : OnlyNoted w (w.notes ((Command.Resolution.builtin .exit).events name)) :=
      (OnlyNoted.refl w).notes (by simp [Command.Resolution.events])
    exact (hw.note rfl).note rfl
  | skipped | rejected | answered | failed =>
    rw [hc] at h
    exact absurd rfl h

/-- A line that ends the shell has only been noted. -/
theorem execute_onlyNoted (w : World) (h : (sh.execute w line).2 ≠ .next) :
    OnlyNoted w (sh.execute w line).1 := by
  unfold execute at h ⊢
  cases ht : Line.tokens sh.settings.commentMark line with
  | nil => exact .refl w
  | cons name rest =>
    rw [ht] at h
    dsimp only at h ⊢
    cases hr : Line.redirection sh.settings.strictRedirection rest with
    | error e =>
      rw [hr] at h
      exact absurd rfl h
    | ok r =>
      rw [hr] at h
      dsimp only at h ⊢
      split
      · rw [if_pos (by assumption)] at h
        exact perform_onlyNoted w h
      · rw [if_neg (by assumption)] at h
        exact ((OnlyNoted.refl w).note rfl).trans (perform_onlyNoted _ h)

/-- A line is followed by the next, or it ends the shell with status 0, or a search path is
missing. It ends the shell if its command is `exit`. A search path is missing if none is set, and
its command is no builtin and no path name of anything. Either way its redirection is well formed,
and nothing has changed but the log. -/
theorem execute_contained (settings : Settings) (environment : Environment)
    (programs : Command.Programs) (w : World) (line : String) :
    let sh : Shell := ⟨settings, environment.lookup "PATH", programs⟩
    let after := sh.execute w line
    (after.2 = .next ∨ after.2 = .exit 0 ∨ after.2 = .fatal .pathNotSet) ∧
      (after.2 = .fatal .pathNotSet ↔
        ∃ name rest, Line.tokens settings.commentMark line = name :: rest ∧
          Line.WellFormed settings.strictRedirection rest ∧
          name ≠ "echo" ∧ name ≠ "exit" ∧
          ¬ ('/' ∈ name.toList ∧ w.files.has name = true) ∧
          environment.lookup "PATH" = none) ∧
      (after.2 = .exit 0 ↔
        ∃ rest, Line.tokens settings.commentMark line = "exit" :: rest ∧
          Line.WellFormed settings.strictRedirection rest) ∧
      (after.2 ≠ .next → after.1.view = w.view ∧ OnlyNoted w after.1) := by
  intro sh after
  have hv : after.2 = (sh.course w.files line).verdict := verdict_execute sh w line
  refine ⟨?_, ?_, ?_, ?_⟩
  · rw [hv]
    cases sh.course w.files line <;> simp [Course.verdict]
  · have hs : after.2 = .fatal .pathNotSet ↔ sh.course w.files line = .stopped := by
      rw [hv]
      cases sh.course w.files line <;> simp [Course.verdict]
    rw [hs, course_eq_stopped_iff]
    simp only [Command.isLiteral_eq_false_iff]
    exact Iff.rfl
  · have he : after.2 = .exit 0 ↔ sh.course w.files line = .exits := by
      rw [hv]
      cases sh.course w.files line <;> simp [Course.verdict]
    rw [he, course_eq_exits_iff]
  · intro h
    have hn := execute_onlyNoted w h
    exact ⟨hn.view_eq, hn⟩

end Shell

end LineShell

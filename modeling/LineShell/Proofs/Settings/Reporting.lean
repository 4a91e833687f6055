import LineShell.Proofs.Settings.Loading
import LineShell.Proofs.View
import LineShell.Proofs.Yaml.Document
import LineShell.Run

namespace LineShell

open Files
open CommandLine (Arguments complaint)

namespace Run

variable {s : Setting} {texts : List String} {a : Arguments} {path : Option String} {w : World}

/-- The settings file that arguments name, if any; none if two dashes stand in its place. -/
def configPath? (a : Arguments) : Option (Option String) :=
  match a.config with
  | none => some none
  | some (.text path) => some (some (Path.normal path))
  | some .dashes => none

/-- A command line that asks for a run, with its settings in the file that is named, or in the usual
one. -/
structure Asks (texts : List String) (path : Option String) (a : Arguments) : Prop where
  parsed : CommandLine.parse texts = .ok (.run a)
  oneSource : a.hasTwoSources = false
  config : configPath? a = some path

theorem run_eq_withArguments (h : Asks texts path a) (s : Setting) (w : World) :
    run s texts w = withArguments s a w := by
  unfold run
  rw [h.parsed]
  dsimp only
  rw [h.oneSource, if_neg Bool.false_ne_true]

theorem Asks.config_eq (h : Asks texts path a) :
    (a.config = none ∧ path = none) ∨
      ∃ file, a.config = some (.text file) ∧ path = some (Path.normal file) := by
  have hc := h.config
  unfold configPath? at hc
  split at hc
  · cases hc
    exact .inl ⟨by assumption, rfl⟩
  · cases hc
    exact .inr ⟨_, by assumption, rfl⟩
  · cases hc

/-- What is wrong with the settings file is reported. -/
theorem run_of_file (h : Asks texts path a) {w' : World} {e : FileError}
    (hl : Settings.load s.library s.environment w path = (w', .error (.file e))) :
    run s texts w = ⟨w'.complain (complaint (e.message s.library.report)), .status 2, false⟩ := by
  rw [run_eq_withArguments h, withArguments]
  rcases h.config_eq with ⟨ha, rfl⟩ | ⟨file, ha, rfl⟩ <;> simp only [ha, hl]

/-- Any other failure to load settings ends the run as it is. -/
theorem run_of_unhandled (h : Asks texts path a) {w' : World} {u : Unhandled}
    (hl : Settings.load s.library s.environment w path = (w', .error (.unhandled u))) :
    run s texts w = ⟨w', .unhandled u, false⟩ := by
  rw [run_eq_withArguments h, withArguments]
  rcases h.config_eq with ⟨ha, rfl⟩ | ⟨file, ha, rfl⟩ <;> simp only [ha, hl]

end Run

namespace Settings

variable {library : Library} {environment : Environment} {w : World} {path : Option String}
  {file : String} {bytes : List UInt8} {s : Settings}

/-- Loading settings adds a note at most. -/
theorem load_world (library : Library) (environment : Environment) (w : World)
    (path : Option String) :
    (load library environment w path).1 = w ∨
      ∃ e, (load library environment w path).1 = w.note e := by
  cases hf : fileOf environment path with
  | error fault =>
    rw [load_of_fileOf_error hf]
    exact .inl rfl
  | ok file =>
    rw [load_of_fileOf hf]
    split
    · exact .inl rfl
    · unfold readFile
      split
      · exact .inl rfl
      · split
        · exact .inr ⟨_, rfl⟩
        · exact .inl rfl
    · cases path with
      | some path => exact .inl rfl
      | none => exact .inr ⟨_, rfl⟩

theorem view_load : (load library environment w path).1.view = w.view := by
  rcases load_world library environment w path with h | ⟨e, h⟩
  · rw [h]
  · rw [h, World.view_note]

end Settings

end LineShell

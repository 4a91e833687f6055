import LineShell.Proofs.Settings.Reporting

namespace LineShell.Run

open CommandLine (Arguments UsageError complaint)
open Files (Tree)

/-- The status that a run ends with, unless a failure passes through it. -/
def Finish.status? : Finish → Option Nat
  | .early code => some code
  | .status code => some code
  | .unhandled _ => none

def Setting.shell (s : Setting) (settings : Settings) : Shell :=
  ⟨settings, s.environment.lookup "PATH", s.programs⟩

def opened (settings : Settings) (w : World) : World :=
  if settings.ignoreInterrupts then w.note .interruptsIgnored else w

/-- What is wrong with a command line. -/
inductive Refused (texts : List String) : UsageError → Prop where
  | malformed {e : UsageError} (h : CommandLine.parse texts = .error e) : Refused texts e
  | twoSources {a : Arguments} (parsed : CommandLine.parse texts = .ok (.run a))
      (two : a.hasTwoSources = true) : Refused texts .twoSources

def Misconfigured (s : Setting) (texts : List String) (w : World) (e : FileError) : Prop :=
  ∃ path a, Asks texts path a ∧ (Settings.load s.library s.environment w path).2 = .error (.file e)

/-- The lines of a run are run under these settings, with this result. -/
inductive Runs (s : Setting) (texts : List String) (w : World) :
    Arguments → Settings → Input.Result → Prop where
  | intro {path : Option String} {a : Arguments} {settings : Settings} (asks : Asks texts path a)
      (loaded : (Settings.load s.library s.environment w path).2 = .ok settings) :
      Runs s texts w a settings (lines (s.shell settings) s a
        (opened settings (Settings.load s.library s.environment w path).1))

/-- The ways a run can go. -/
inductive Way (s : Setting) (texts : List String) (w : World) : Prop where
  | refused {e : UsageError} (h : Refused texts e)
  | help (h : CommandLine.parse texts = .ok .help)
  | dashes {a : Arguments} (parsed : CommandLine.parse texts = .ok (.run a))
      (oneSource : a.hasTwoSources = false) (config : a.config = some .dashes)
  | misconfigured {e : FileError} (h : Misconfigured s texts w e)
  | unloaded {path : Option String} {a : Arguments} {u : Unhandled} (asks : Asks texts path a)
      (h : (Settings.load s.library s.environment w path).2 = .error (.unhandled u))
  | runs {a : Arguments} {settings : Settings} {r : Input.Result} (h : Runs s texts w a settings r)

variable {s : Setting} {texts : List String} {w : World} {a : Arguments} {settings : Settings}
  {r : Input.Result} {code : Nat}

theorem way (s : Setting) (texts : List String) (w : World) : Way s texts w := by
  cases hp : CommandLine.parse texts with
  | error e => exact .refused (.malformed hp)
  | ok request =>
    cases request with
    | help => exact .help hp
    | run a =>
      cases ht : a.hasTwoSources with
      | true => exact .refused (.twoSources hp ht)
      | false =>
        have hasks : ∀ path, configPath? a = some path → Way s texts w := by
          intro path hc
          have asks : Asks texts path a := ⟨hp, ht, hc⟩
          cases hl : (Settings.load s.library s.environment w path).2 with
          | ok settings => exact .runs (.intro asks hl)
          | error failure =>
            cases failure with
            | file e => exact .misconfigured ⟨path, a, asks, hl⟩
            | unhandled u => exact .unloaded asks hl
        cases hc : a.config with
        | none => exact hasks none (by rw [configPath?, hc])
        | some given =>
          cases given with
          | text file => exact hasks (some (Files.Path.normal file)) (by rw [configPath?, hc])
          | dashes => exact .dashes hp ht hc

theorem run_of_refused {e : UsageError} (h : Refused texts e) (s : Setting) (w : World) :
    run s texts w =
      ⟨w.add [.error (e.text (CommandLine.columns s.environment))], .early 2, false⟩ := by
  unfold run
  cases h with
  | malformed hp => rw [hp]
  | twoSources hp ht =>
    rw [hp]
    exact if_pos ht

theorem run_of_help (h : CommandLine.parse texts = .ok .help) (s : Setting) (w : World) :
    run s texts w =
      ⟨w.print (CommandLine.helpText (CommandLine.columns s.environment)), .early 0, false⟩ := by
  unfold run
  rw [h]

theorem run_of_dashes (hp : CommandLine.parse texts = .ok (.run a))
    (ht : a.hasTwoSources = false) (hc : a.config = some .dashes) (s : Setting) (w : World) :
    run s texts w = ⟨w, .unhandled .pathIsDashes, false⟩ := by
  unfold run
  rw [hp]
  dsimp only
  rw [ht, if_neg Bool.false_ne_true, withArguments, hc]

theorem run_of_misconfigured {e : FileError} (h : Misconfigured s texts w e) :
    ∃ w' : World, w'.view = w.view ∧ ∀ s' : Setting, s'.environment = s.environment →
      s'.library = s.library → run s' texts w =
        ⟨w'.complain (complaint (e.message s.library.report)), .status 2, false⟩ := by
  obtain ⟨path, a, asks, hl⟩ := h
  refine ⟨(Settings.load s.library s.environment w path).1, Settings.view_load, ?_⟩
  intro s' hs hlib
  have hl' : Settings.load s'.library s'.environment w path =
      ((Settings.load s.library s.environment w path).1, .error (.file e)) := by
    rw [hs, hlib]
    exact Prod.ext rfl hl
  rw [run_of_file asks hl', hlib]

theorem underSettings_eq (settings : Settings) (s : Setting) (a : Arguments) (w : World) :
    let r := lines (s.shell settings) s a (opened settings w)
    let concluded := conclude s.trace r.world r.ending
    underSettings settings s a w =
      ⟨Input.Saving.carryOut r.saving concluded.1, concluded.2, settings.ignoreInterrupts⟩ := rfl

theorem run_of_loaded {path : Option String} (h : Asks texts path a) {w' : World}
    (hl : Settings.load s.library s.environment w path = (w', .ok settings)) :
    run s texts w = underSettings settings s a w' := by
  rw [run_eq_withArguments h, withArguments]
  rcases h.config_eq with ⟨ha, rfl⟩ | ⟨file, ha, rfl⟩ <;> simp only [ha, hl]

theorem run_of_runs (h : Runs s texts w a settings r) :
    run s texts w = ⟨Input.Saving.carryOut r.saving (conclude s.trace r.world r.ending).1,
      (conclude s.trace r.world r.ending).2, settings.ignoreInterrupts⟩ := by
  obtain ⟨asks, hl⟩ := h
  rw [run_of_loaded asks (Prod.ext rfl hl)]
  exact underSettings_eq settings s a _

end LineShell.Run

import LineShell.Proofs.Input.Kept
import LineShell.Proofs.Ways

namespace LineShell.Run

open CommandLine (Arguments UsageError complaint)
open Files (Tree)

variable {s : Setting} {texts : List String} {w : World} {a : Arguments} {settings : Settings}
  {r : Input.Result} {code : Nat}

section Lines

variable {sh : Shell} {v : World}

def executedOf (sh : Shell) (s : Setting) (a : Arguments) (files : Tree) : List String :=
  match a.command, a.script with
  | some (.text line), _ => [line]
  | some .dashes, _ => []
  | none, some path => sh.reached files (Input.scriptOf files path)
  | none, none => Input.sessionLines sh s.interactive s.readings files

theorem lines_within (h : v.Within w) :
    (sh.executeAll v (executedOf sh s a v.files)).Within (lines sh s a w).world := by
  unfold lines executedOf
  cases a.command with
  | some given =>
    cases given with
    | text line =>
      dsimp only
      rw [Input.runLine_eq]
      exact (h.execute sh line).1
    | dashes => exact h
  | none =>
    cases a.script with
    | none => exact Input.session_within h
    | some path => exact Input.runScript_within (h.note (.scriptStarted path))

theorem lines_tidy (h : w.Tidy) : (lines sh s a w).world.Tidy := by
  unfold lines
  split
  · rw [Input.runLine_eq]
    exact h.execute sh _
  · exact h
  · exact Input.runScript_tidy (h.note _)
  · exact Input.session_tidy h

theorem lines_status (h : (lines sh s a w).ending = .status code) : code = 0 := by
  unfold lines at h
  split at h
  · rw [Input.runLine_eq] at h
    exact Shell.ending_of_status h
  · cases h
  · exact Input.runScript_status h
  · exact Input.session_status h

theorem lines_saving {saving : Input.Saving} (h : (lines sh s a w).saving = some saving) :
    s.interactive = true ∧ a.command = none ∧ a.script = none ∧
      sh.settings.historyFile = some saving.path := by
  unfold lines at h
  split at h
  · cases h
  · cases h
  · cases h
  · rename_i hc hs
    obtain ⟨hi, hh⟩ := Input.session_saving h
    exact ⟨hi, hc, hs, hh⟩

end Lines

def executed (s : Setting) (texts : List String) (files : Tree) : List String :=
  match CommandLine.parse texts with
  | .ok (.run a) =>
    if a.hasTwoSources then []
    else
      match (configPath? a).map fun path =>
        (Settings.load s.library s.environment (World.ofFiles files) path).2 with
      | some (.ok settings) => executedOf (s.shell settings) s a files
      | _ => []
  | _ => []

theorem executed_of_refused {e : UsageError} (h : Refused texts e) (s : Setting) (files : Tree) :
    executed s texts files = [] := by
  unfold executed
  cases h with
  | malformed hp => rw [hp]
  | twoSources hp ht =>
    rw [hp]
    exact if_pos ht

theorem executed_of_asks {path : Option String} (asks : Asks texts path a) (s : Setting)
    (files : Tree) :
    executed s texts files =
      match (Settings.load s.library s.environment (World.ofFiles files) path).2 with
      | .ok settings => executedOf (s.shell settings) s a files
      | .error _ => [] := by
  unfold executed
  rw [asks.parsed]
  dsimp only
  rw [asks.oneSource, if_neg Bool.false_ne_true, asks.config]
  dsimp only [Option.map_some]
  cases (Settings.load s.library s.environment (World.ofFiles files) path).2 <;> rfl

theorem executed_of_misconfigured {files : Tree} {e : FileError}
    (h : Misconfigured s texts (World.ofFiles files) e) : executed s texts files = [] := by
  obtain ⟨path, a, asks, hl⟩ := h
  rw [executed_of_asks asks, hl]

theorem executed_of_runs {files : Tree} (h : Runs s texts (World.ofFiles files) a settings r) :
    executed s texts files = executedOf (s.shell settings) s a files := by
  obtain ⟨asks, hl⟩ := h
  rw [executed_of_asks asks, hl]

def statusOf : Ending → Option Nat
  | .status code => some code
  | .fatal _ => some 1
  | .unhandled _ => none

theorem status_of_runs (h : Runs s texts w a settings r) :
    (run s texts w).finish.status? = statusOf r.ending := by
  rw [run_of_runs h]
  dsimp only
  cases r.ending <;> rfl

theorem status_of_misconfigured {e : FileError} (h : Misconfigured s texts w e) :
    (run s texts w).finish.status? = some 2 := by
  obtain ⟨w', -, hrun⟩ := run_of_misconfigured h
  rw [hrun s rfl rfl]
  rfl

theorem status_of_refused {e : UsageError} (h : Refused texts e) (s : Setting) (w : World) :
    (run s texts w).finish.status? = some 2 := by
  rw [run_of_refused h]
  rfl

theorem statusOf_cases (h : Runs s texts w a settings r) :
    statusOf r.ending = some 0 ∧ r.ending = .status 0 ∨
      (∃ e, statusOf r.ending = some 1 ∧ r.ending = .fatal e) ∨
      statusOf r.ending = none := by
  cases he : r.ending with
  | status code =>
    obtain ⟨-, -⟩ := h
    obtain rfl : code = 0 := lines_status he
    exact .inl ⟨rfl, rfl⟩
  | fatal e => exact .inr (.inl ⟨e, rfl, rfl⟩)
  | unhandled u => exact .inr (.inr rfl)

/-- Every status says which way the run went. -/
theorem way_of_status (h : (run s texts w).finish.status? = some code) :
    (code = 2 ∧ ((∃ e, Refused texts e) ∨ ∃ e, Misconfigured s texts w e)) ∨
      (code = 1 ∧ ∃ a settings r e, Runs s texts w a settings r ∧ r.ending = .fatal e) ∨
      (code = 0 ∧ (CommandLine.parse texts = .ok .help ∨
        ∃ a settings r, Runs s texts w a settings r ∧ r.ending = .status 0)) := by
  cases way s texts w with
  | refused hr =>
    cases (status_of_refused hr s w).symm.trans h
    exact .inl ⟨rfl, .inl ⟨_, hr⟩⟩
  | help hh =>
    rw [run_of_help hh] at h
    cases h
    exact .inr (.inr ⟨rfl, .inl hh⟩)
  | dashes hp ht hc =>
    rw [run_of_dashes hp ht hc] at h
    cases h
  | misconfigured hm =>
    cases (status_of_misconfigured hm).symm.trans h
    exact .inl ⟨rfl, .inr ⟨_, hm⟩⟩
  | unloaded asks hl =>
    rw [run_of_unhandled asks (Prod.ext rfl hl)] at h
    cases h
  | runs hr =>
    rw [status_of_runs hr] at h
    rcases statusOf_cases hr with ⟨hs, he⟩ | ⟨e, hs, he⟩ | hs
    · cases hs.symm.trans h
      exact .inr (.inr ⟨rfl, .inr ⟨_, _, _, hr, he⟩⟩)
    · cases hs.symm.trans h
      exact .inr (.inl ⟨rfl, _, _, _, e, hr, he⟩)
    · cases hs.symm.trans h

theorem kept_of_runs {files : Tree} (h : Runs s texts (World.ofFiles files) a settings r) :
    r.world.Tidy ∧ ((s.shell settings).executeAll (World.ofFiles files)
      (executed s texts files)).Within r.world := by
  have hexecuted := executed_of_runs h
  obtain ⟨asks, hl⟩ := h
  rename_i path
  let w := World.ofFiles files
  have hload : ((Settings.load s.library s.environment w path).1).Tidy ∧
      w.Within (Settings.load s.library s.environment w path).1 := by
    rcases Settings.load_world s.library s.environment w path with hw | ⟨e, hw⟩
    · rw [hw]
      exact ⟨World.tidy_ofFiles files, .refl w⟩
    · rw [hw]
      exact ⟨(World.tidy_ofFiles files).note e, (World.Within.refl w).note e⟩
  have hopened : (opened settings (Settings.load s.library s.environment w path).1).Tidy ∧
      w.Within (opened settings (Settings.load s.library s.environment w path).1) := by
    unfold opened
    split
    · exact ⟨hload.1.note _, hload.2.note _⟩
    · exact hload
  rw [hexecuted]
  exact ⟨lines_tidy hopened.1, lines_within hopened.2⟩

theorem transcript_carryOut (saving : Option Input.Saving) (w : World) :
    ∃ events, (Input.Saving.carryOut saving w).transcript = w.transcript ++ events := by
  cases saving with
  | none => exact ⟨[], (List.append_nil _).symm⟩
  | some saving => exact ⟨_, rfl⟩

theorem world_conclude_fatal (trace : String) (w : World) (e : FatalError) :
    (conclude trace w (.fatal e)).1 =
      (w.note (.fatalError trace)).complain (complaint e.message) := rfl

/-- A fatal error is reported on a line of its own. -/
theorem stderr_of_fatal {files : Tree} {e : FatalError}
    (h : Runs s texts (World.ofFiles files) a settings r) (he : r.ending = .fatal e)
    (style : Log.Style) :
    ∃ before after, AtLineStart before ∧
      Transcript.stderr style (run s texts (World.ofFiles files)).world.transcript =
        before ++ ("pathshell: " ++ e.message ++ "\n") ++ after := by
  let noted := r.world.note (.fatalError s.trace)
  have hnoted : noted.Tidy := (kept_of_runs h).1.note _
  obtain ⟨events, hevents⟩ := transcript_carryOut r.saving (noted.complain (complaint e.message))
  refine ⟨Transcript.stderr style noted.transcript, Transcript.stderr style events,
    hnoted.stderr_starts style, ?_⟩
  have hrun : (run s texts (World.ofFiles files)).world =
      Input.Saving.carryOut r.saving (noted.complain (complaint e.message)) := by
    rw [run_of_runs h, he, world_conclude_fatal]
  have hline : Transcript.stderr style [.error (complaint e.message ++ "\n")] =
      "pathshell: " ++ e.message ++ "\n" := by
    simp [Transcript.stderr, complaint, CommandLine.programName]
  rw [hrun, hevents, World.complain, World.add, Transcript.stderr_append,
    Transcript.stderr_append, hline]

/-- A run with status 2 has executed no line, and would be the same with other programs and other
input. -/
theorem unchanged_of_status_two {files : Tree}
    (h : (run s texts (World.ofFiles files)).finish.status? = some 2) :
    let out := run s texts (World.ofFiles files)
    executed s texts files = [] ∧ out.world.files = files ∧ out.world.view.stdout = "" ∧
      out.ignoresInterrupts = false ∧
      ∀ s' : Setting, s'.environment = s.environment → s'.library = s.library →
        run s' texts (World.ofFiles files) = out := by
  intro out
  rcases way_of_status h with ⟨-, ⟨e, h⟩ | ⟨e, h⟩⟩ | ⟨hc, -⟩ | ⟨hc, -⟩
  · have hout : out = _ := run_of_refused h s (World.ofFiles files)
    rw [hout]
    refine ⟨executed_of_refused h s files, rfl, ?_, rfl, ?_⟩
    · rw [World.view_add]
      simp [Transcript.stdout, World.view, World.ofFiles]
    · intro s' hs _
      rw [run_of_refused h, hs]
  · obtain ⟨w', hview, hrun⟩ := run_of_misconfigured h
    have hout : out = _ := hrun s rfl rfl
    rw [hout]
    refine ⟨executed_of_misconfigured h, congrArg View.files hview, ?_, rfl, hrun⟩
    rw [World.view_complain, View.stdout_complain, hview]
    rfl
  · cases hc
  · cases hc

/-- What the lines have done is kept when a fatal error ends them, whatever is written back after
it. -/
theorem kept_of_fatal {files : Tree} {e : FatalError}
    (h : Runs s texts (World.ofFiles files) a settings r) (he : r.ending = .fatal e) :
    let returned := (conclude s.trace r.world r.ending).1
    ((s.shell settings).executeAll (World.ofFiles files) (executed s texts files)).Within returned ∧
      (run s texts (World.ofFiles files)).world = Input.Saving.carryOut r.saving returned ∧
      ∀ saving, r.saving = some saving → s.interactive = true ∧ a.command = none ∧
        a.script = none ∧ settings.historyFile = some saving.path := by
  refine ⟨?_, congrArg Outcome.world (run_of_runs h), ?_⟩
  · rw [he, world_conclude_fatal]
    exact ((kept_of_runs h).2.note _).add _
  · intro saving hsaving
    obtain ⟨-, -⟩ := h
    exact lines_saving hsaving

/-- A run has status 2 exactly if its command line or its settings file is refused, and then it
executes no line: nothing has changed or been printed, and it would be the same with other programs
and other input. It has status 1 exactly if a fatal error ends its lines, and then the error is
reported and all that the lines have done is kept, whatever is written back after them. The only
other status is 0, of a run whose lines end otherwise, or which asks for help. Interrupts are
ignored as the settings say that are loaded. -/
theorem run_status (s : Setting) (texts : List String) (files : Tree) :
    let w := World.ofFiles files
    let out := run s texts w
    (∀ code, out.finish.status? = some code → code = 0 ∨ code = 1 ∨ code = 2) ∧
      (out.finish.status? = some 2 ↔
        (∃ e, Refused texts e) ∨ ∃ e, Misconfigured s texts w e) ∧
      (out.finish.status? = some 2 →
        executed s texts files = [] ∧ out.world.files = files ∧ out.world.view.stdout = "" ∧
          out.ignoresInterrupts = false ∧
          ∀ s' : Setting, s'.environment = s.environment → s'.library = s.library →
            run s' texts w = out) ∧
      (out.finish.status? = some 1 ↔
        ∃ a settings r e, Runs s texts w a settings r ∧ r.ending = .fatal e) ∧
      (∀ a settings r e, Runs s texts w a settings r → r.ending = .fatal e →
        (∀ style, ∃ before after, AtLineStart before ∧
          Transcript.stderr style out.world.transcript =
            before ++ ("pathshell: " ++ e.message ++ "\n") ++ after) ∧
        let returned := (conclude s.trace r.world r.ending).1
        ((s.shell settings).executeAll w (executed s texts files)).Within returned ∧
          out.world = Input.Saving.carryOut r.saving returned ∧
          ∀ saving, r.saving = some saving → s.interactive = true ∧ a.command = none ∧
            a.script = none ∧ settings.historyFile = some saving.path) ∧
      (out.finish.status? = some 0 ↔ CommandLine.parse texts = .ok .help ∨
        ∃ a settings r, Runs s texts w a settings r ∧ r.ending = .status 0) ∧
      ∀ a settings r, Runs s texts w a settings r →
        out.ignoresInterrupts = settings.ignoreInterrupts := by
  intro w out
  have hway : ∀ code, out.finish.status? = some code → _ := fun code h => way_of_status h
  refine ⟨?_, ⟨?_, ?_⟩, fun h => unchanged_of_status_two h, ⟨?_, ?_⟩,
    fun a settings r e h he => ⟨stderr_of_fatal h he, kept_of_fatal h he⟩, ⟨?_, ?_⟩,
    fun a settings r h => congrArg Outcome.ignoresInterrupts (run_of_runs h)⟩
  · intro code h
    rcases hway code h with ⟨hc, -⟩ | ⟨hc, -⟩ | ⟨hc, -⟩
    · exact .inr (.inr hc)
    · exact .inr (.inl hc)
    · exact .inl hc
  · intro h
    rcases hway 2 h with ⟨-, h⟩ | ⟨hc, -⟩ | ⟨hc, -⟩
    · exact h
    · cases hc
    · cases hc
  · rintro (⟨e, h⟩ | ⟨e, h⟩)
    · exact status_of_refused h s w
    · exact status_of_misconfigured h
  · intro h
    rcases hway 1 h with ⟨hc, -⟩ | ⟨-, h⟩ | ⟨hc, -⟩
    · cases hc
    · exact h
    · cases hc
  · rintro ⟨a, settings, r, e, h, he⟩
    have hs := status_of_runs h
    rwa [he] at hs
  · intro h
    rcases hway 0 h with ⟨hc, -⟩ | ⟨hc, -⟩ | ⟨-, h⟩
    · cases hc
    · cases hc
    · exact h
  · rintro (h | ⟨a, settings, r, h, he⟩)
    · have hrun : out = _ := run_of_help h s w
      rw [hrun]
      rfl
    · have hs := status_of_runs h
      rwa [he] at hs

/-- A run with a home directory and nothing else in its environment. -/
def plainSetting : Setting where
  environment := .ofVariables [("HOME", "/home")]
  library := .standard ""
  programs _ _ := .refused .notExecutable
  interactive := false
  readings := []
  trace := ""

def plainSettings : Settings :=
  { Settings.default with historyFile := some "/home/.pathshell_history" }

theorem load_plain :
    Settings.load plainSetting.library plainSetting.environment (World.ofFiles Tree.standard) none =
      ((World.ofFiles Tree.standard).note .settingsDefault, .ok plainSettings) := by
  have hf : Settings.fileOf plainSetting.environment none = .ok "/home/.pathshell.yaml" := by rfl
  have hm : Settings.exists? (World.ofFiles Tree.standard).files "/home/.pathshell.yaml" =
      .ok false := by rfl
  have hv : Settings.validate plainSetting.library.coercions plainSetting.environment [] =
      .ok plainSettings := by rfl
  rw [Settings.load_of_fileOf hf, hm]
  dsimp only [Settings.orMissing]
  rw [Settings.ofValue]
  dsimp only [Settings.named?]
  rw [hv]

/-- A search path that is not set, two sources of lines, and a call for help. -/
theorem run_status_three :
    let status (texts : List String) :=
      (run plainSetting texts (World.ofFiles Tree.standard)).finish.status?
    status ["--command", "nope"] = some 1 ∧ status ["--command", "exit", "script"] = some 2 ∧
      status ["--help"] = some 0 := by
  intro status
  let a : Arguments := { Arguments.none with command := some (.text "nope") }
  have asks : Asks ["--command", "nope"] none a := ⟨by rfl, rfl, rfl⟩
  have loaded := congrArg Prod.snd load_plain
  have hfatal : (lines (plainSetting.shell plainSettings) plainSetting a (opened plainSettings
      (Settings.load plainSetting.library plainSetting.environment
        (World.ofFiles Tree.standard) none).1)).ending = .fatal .pathNotSet := by
    rw [load_plain]
    decide
  refine ⟨?_, ?_, ?_⟩
  · obtain ⟨-, -, -, hone, -⟩ := run_status plainSetting ["--command", "nope"] Tree.standard
    exact hone.mpr ⟨a, plainSettings, _, .pathNotSet, .intro asks loaded, hfatal⟩
  · obtain ⟨-, htwo, -⟩ := run_status plainSetting ["--command", "exit", "script"] Tree.standard
    exact htwo.mpr (.inl ⟨.twoSources, .twoSources (by rfl) rfl⟩)
  · obtain ⟨-, -, -, -, -, hzero, -⟩ := run_status plainSetting ["--help"] Tree.standard
    exact hzero.mpr (.inl (by rfl))

end LineShell.Run

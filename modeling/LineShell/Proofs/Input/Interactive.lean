import LineShell.Proofs.Input.Kept
import LineShell.Proofs.Settings.Validation
import LineShell.Settings.Coercion

namespace LineShell

namespace Settings

open Files (Environment)

variable {c : Coercions} {environment : Environment} {values : List (String × Value)}
  {s : Settings}

/-- Every length of the history is accepted. -/
theorem Validates.withLength (lawful : c.Lawful) (h : Validates c environment values s) (n : Nat) :
    Validates c environment (("history_length", .int n) :: values)
      { s with historyLength := n } where
  prompt := h.prompt.added (by decide) _
  commentMark := h.commentMark.added (by decide) _
  strictRedirection := h.strictRedirection.added (by decide) _
  ignoreInterrupts := h.ignoreInterrupts.added (by decide) _
  historyFile := by
    rw [lookup_added (by decide)]
    exact h.historyFile
  historyLength := toLength_ofNat lawful n
  known := known_added h.known (by decide) _

end Settings

namespace Input

open Settings (Coercions validate validate_eq_ok_iff)

variable {sh : Shell} {s : Settings} {readings : List Reading} {interactive : Bool} {w : World}
  {u : Unhandled}

/-- Why a session at a terminal does not come to its first prompt under these settings. -/
inductive Obstructs (s : Settings) : Unhandled → Prop where
  | nullInPath {path : String} (file : s.historyFile = some path)
      (null : Files.hasNull path = true) : Obstructs s .nullCharacter
  | tooLong {path : String} (file : s.historyFile = some path)
      (plain : Files.hasNull path = false) (long : History.maxLength < s.historyLength) :
      Obstructs s .historyTooLong

/-- An obstructed session shows nothing but what the log says of its history. -/
theorem session_of_obstructs (h : Obstructs s u) (w : World) :
    ∃ events saving, ∀ sh : Shell, sh.settings = s → ∀ readings,
      session sh true readings w = ⟨w.notes events, .unhandled u, saving⟩ := by
  cases h with
  | nullInPath file null =>
    refine ⟨[], none, ?_⟩
    rintro sh rfl readings
    unfold session
    rw [file]
    dsimp only
    rw [if_pos null, World.notes_nil]
  | @tooLong path file plain long =>
    refine ⟨(History.load w.files path).2, some ⟨path, (History.load w.files path).1, none⟩, ?_⟩
    rintro sh rfl readings
    unfold session
    rw [file]
    dsimp only
    rw [if_neg (by simp [plain]), if_pos long]

theorem prompts_eq_false_iff : prompts sh true = false ↔ ∃ u, Obstructs sh.settings u := by
  unfold prompts
  constructor
  · intro h
    cases hf : sh.settings.historyFile with
    | none =>
      rw [hf] at h
      cases h
    | some path =>
      rw [hf] at h
      cases hn : Files.hasNull path with
      | true => exact ⟨_, .nullInPath hf hn⟩
      | false => exact ⟨_, .tooLong hf hn (by simpa [hn] using h)⟩
  · rintro ⟨u, h⟩
    cases h with
    | nullInPath file null => simp [file, null]
    | tooLong file plain long => simpa [file, plain] using long

/-- How a run may end that reads its lines: they end, or the shell does, or a reading fails. -/
inductive Orderly (readings : List Reading) : Ending → Prop where
  | done : Orderly readings (.status 0)
  | pathNotSet : Orderly readings (.fatal .pathNotSet)
  | unread {cause : Cause} (failed : .failed cause ∈ readings) :
      Orderly readings (.fatal (.input "standard input" (some cause)))

theorem Orderly.cons {e : Ending} (h : Orderly readings e) (reading : Reading) :
    Orderly (reading :: readings) e := by
  cases h with
  | done => exact .done
  | pathNotSet => exact .pathNotSet
  | unread failed => exact .unread (List.mem_cons_of_mem reading failed)

theorem loop_orderly (sh : Shell) (interactive : Bool) (readings : List Reading) (w : World) :
    Orderly readings (loop sh interactive readings w).2 := by
  induction readings generalizing w with
  | nil => exact .done
  | cons reading r ih =>
    cases reading with
    | interrupt => exact (ih _).cons _
    | failed cause => exact .unread List.mem_cons_self
    | line text =>
      rw [loop_line]
      split
      · exact (ih _).cons _
      · rename_i hstop
        dsimp only
        rcases Shell.verdict_eq_of_ne_next hstop with hv | hv
        · rw [hv]
          exact .done
        · rw [hv]
          exact .pathNotSet

theorem session_orderly (h : ∀ u, ¬ Obstructs sh.settings u) :
    Orderly readings (session sh true readings w).ending := by
  obtain ⟨events, ⟨-, -, hloop⟩ | ⟨hp, -⟩⟩ := session_cases sh true readings w
  · rw [hloop]
    exact loop_orderly sh true readings _
  · obtain ⟨u, hu⟩ := prompts_eq_false_iff.mp hp
    exact absurd hu (h u)

theorem Orderly.ne_unhandled {e : Ending} (h : Orderly readings e) : e ≠ .unhandled u := by
  cases h <;> simp

/-- A session fails without a report exactly if its settings obstruct it. -/
theorem session_unhandled_iff :
    (session sh true readings w).ending = .unhandled u ↔ Obstructs sh.settings u := by
  constructor
  · intro hu
    by_cases h : ∃ u', Obstructs sh.settings u'
    · obtain ⟨u', h⟩ := h
      obtain ⟨events, saving, hs⟩ := session_of_obstructs h w
      rw [hs sh rfl readings] at hu
      cases hu
      exact h
    · exact absurd hu (session_orderly (not_exists.mp h)).ne_unhandled
  · intro h
    obtain ⟨events, saving, hs⟩ := session_of_obstructs h w
    rw [hs sh rfl readings]

/-- Under accepted settings a session at a terminal ends with status 0 or by a fatal error, unless
they obstruct it. An obstructed session ends in a failure that is not reported, whatever is typed
and whatever programs do; it has executed no line, and has shown and changed nothing. Any length of
the history is accepted, so also one that obstructs. -/
theorem interactive_session_ends (c : Coercions) (lawful : c.Lawful)
    (environment : Files.Environment) (values : List (String × Value)) (s : Settings)
    (accepted : validate c environment values = .ok s)
    (searchPath : Option String) (programs : Command.Programs) (readings : List Reading)
    (w : World) :
    let sh : Shell := ⟨s, searchPath, programs⟩
    let r := session sh true readings w
    ((∀ u, ¬ Obstructs s u) → Orderly readings r.ending) ∧
    (∀ u, r.ending = .unhandled u ↔ Obstructs s u) ∧
    (∀ u, Obstructs s u → r.world.view = w.view ∧ sessionLines sh true readings w.files = [] ∧
      ∀ sh' : Shell, sh'.settings = s → ∀ readings', session sh' true readings' w = r) ∧
    ∀ n : Nat, validate c environment (("history_length", .int n) :: values) =
      .ok { s with historyLength := n } := by
  intro sh r
  refine ⟨fun h => session_orderly h, fun u => session_unhandled_iff, ?_, ?_⟩
  · intro u h
    obtain ⟨events, saving, hs⟩ := session_of_obstructs h w
    have hr : r = ⟨w.notes events, .unhandled u, saving⟩ := hs sh rfl readings
    have hp : prompts sh true = false := prompts_eq_false_iff.mpr ⟨u, h⟩
    rw [hr]
    refine ⟨World.view_notes w events, ?_, fun sh' hsh readings' => hs sh' hsh readings'⟩
    rw [sessionLines, hp]
    rfl
  · intro n
    exact validate_eq_ok_iff.mpr ((validate_eq_ok_iff.mp accepted).withLength lawful n)

/-- A history file whose path holds a null character, and the longest history that can be asked
for, with a reading that fails. -/
theorem interactive_session_ends_unread :
    let accepts (values : List (String × Value)) (s : Settings) : Prop :=
      validate .lax (.ofVariables []) values = .ok s
    let ending (s : Settings) (readings : List Reading) :=
      (session ⟨s, some "bin", (Shell.stock none).programs⟩ true readings
        (World.ofFiles Files.Tree.standard)).ending
    let readings : List Reading :=
      [.line "echo a", .interrupt, .failed (Cause.ofFault .inputOutput)]
    let longest : String × Value := ("history_length", .int History.maxLength)
    (∃ s, accepts [("history_file", .text "a\x00b")] s ∧
        ending s readings = .unhandled .nullCharacter) ∧
      ∃ s, accepts [longest, ("history_file", .text "h")] s ∧
        Orderly readings (ending s readings) := by
  intro accepts ending readings longest
  let s : Settings := { Settings.default with historyFile := some "a\x00b" }
  let s' : Settings := { Settings.default with historyFile := some "h" }
  have accepted : accepts [("history_file", .text "a\x00b")] s := by rfl
  have accepted' : accepts [("history_file", .text "h")] s' := by rfl
  have ends := interactive_session_ends .lax Settings.Coercions.lawful_lax (.ofVariables [])
  have accepted'' := (ends _ s' accepted' none (Shell.stock none).programs []
    (World.ofFiles Files.Tree.standard)).2.2.2 History.maxLength
  refine ⟨⟨s, accepted, ?_⟩, _, accepted'', ?_⟩
  · have h := ends _ s accepted (some "bin") (Shell.stock none).programs readings
      (World.ofFiles Files.Tree.standard)
    exact (h.2.1 .nullCharacter).mpr (.nullInPath rfl (by decide))
  · have h := ends _ _ accepted'' (some "bin") (Shell.stock none).programs readings
      (World.ofFiles Files.Tree.standard)
    apply h.1
    intro u hu
    cases hu with
    | nullInPath file null =>
      cases file
      cases null
    | tooLong file plain long => exact absurd long (Nat.lt_irrefl _)

/-- A history one line longer than can be asked for is accepted, and the session ends neither with a
status nor by a fatal error. -/
theorem long_history_unreported :
    ∃ s, validate .lax (.ofVariables [("HOME", "home")])
          [("history_length", .int 2147483648)] = .ok s ∧
      let r := session ⟨s, some "bin", (Shell.stock none).programs⟩ true []
        (World.ofFiles Files.Tree.standard)
      ¬ ((∃ code, r.ending = .status code) ∨ ∃ e, r.ending = .fatal e) := by
  let s : Settings := { Settings.default with
    historyFile := some "home/.pathshell_history", historyLength := 2147483648 }
  have obstructs : Obstructs s .historyTooLong := .tooLong rfl (by decide) (by decide)
  refine ⟨s, rfl, ?_⟩
  intro r
  have hr : r.ending = .unhandled .historyTooLong := session_unhandled_iff.mpr obstructs
  rw [hr]
  rintro (⟨code, h⟩ | ⟨e, h⟩) <;> cases h

end Input

end LineShell

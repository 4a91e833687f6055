import LineShell.Proofs.Input.Rounds

namespace LineShell.Input

open Files (Tree)

variable {sh : Shell} {readings : List Reading} {files : Tree} {rs : List Round}

/-- The readings of events without interrupts are the other readings. -/
theorem readings_without_interrupts (events : List Event) :
    Input.readings (events.filter (· ≠ .interrupt)) =
      (Input.readings events).filter (· ≠ .interrupt) := by
  induction events with
  | nil => rfl
  | cons event r ih =>
    cases event with
    | interrupt => simpa [Input.readings] using ih
    | failed cause => simpa [Input.readings] using ih
    | reply text =>
      have hkept : (Event.reply text :: r).filter (· ≠ .interrupt) =
          .reply text :: r.filter (· ≠ .interrupt) := by simp
      rw [hkept, Input.readings, Input.readings]
      cases hr : Reading.ofReply text with
      | none => rfl
      | some reading =>
        have hne : reading ≠ .interrupt := by
          rintro rfl
          unfold Reading.ofReply at hr
          split at hr
          · cases hr
          · split at hr <;> cases hr
        simp only [ih]
        rw [List.filter_cons_of_pos (by simpa using hne)]

theorem rounds_without_interrupts :
    rounds sh (readings.filter (· ≠ .interrupt)) files =
      (rounds sh readings files).filter (· ≠ .interrupt) := by
  induction readings generalizing files with
  | nil => rfl
  | cons reading r ih =>
    cases reading with
    | interrupt => simpa [rounds] using ih
    | failed cause => simp [rounds]
    | line text =>
      have hkept : (Reading.line text :: r).filter (· ≠ .interrupt) =
          .line text :: r.filter (· ≠ .interrupt) := by simp
      rw [hkept, rounds, rounds, List.filter_cons_of_pos (by simp)]
      split
      · rw [ih]
      · rfl

theorem filesAfter_without_interrupts :
    filesAfter (rs.filter (· ≠ .interrupt)) files = filesAfter rs files := by
  induction rs generalizing files with
  | nil => rfl
  | cons r rs ih => cases r <;> simpa [filesAfter] using ih

theorem endingOf_without_interrupts :
    endingOf (rs.filter (· ≠ .interrupt)) = endingOf rs := by
  induction rs with
  | nil => rfl
  | cons r rs ih => cases r <;> simp_all [endingOf]

/-- An interrupt is no line. -/
theorem lines_without_interrupts :
    (rs.filter (· ≠ .interrupt)).filterMap Round.line? = rs.filterMap Round.line? := by
  induction rs with
  | nil => rfl
  | cons r rs ih => cases r <;> simp_all [Round.line?, List.filterMap_cons]

theorem own_without_interrupts :
    (rs.filter (· ≠ .interrupt)).flatMap Round.own = rs.flatMap Round.own := by
  induction rs with
  | nil => rfl
  | cons r rs ih => cases r <;> simp_all [Round.own]

/-- Only the lines say something on standard error. -/
theorem stderr_rounds (style : Log.Style) (prompt : String) (interactive : Bool) :
    Transcript.stderr style (rs.flatMap (Round.entries prompt interactive)) =
      Transcript.stderr style (rs.flatMap Round.own) := by
  have hround : ∀ r : Round, Transcript.stderr style (r.entries prompt interactive) =
      Transcript.stderr style r.own := by
    intro r
    rw [Round.entries, Transcript.stderr_append]
    cases r <;> cases interactive <;> simp [Round.shown, Round.own, Transcript.stderr]
  induction rs with
  | nil => rfl
  | cons r rs ih =>
    rw [List.flatMap_cons, List.flatMap_cons, Transcript.stderr_append, Transcript.stderr_append,
      hround, ih]

def Round.text (prompt : String) (interactive : Bool) (r : Round) : String :=
  (if interactive then prompt else "") ++ r.printed interactive

theorem stdout_rounds (prompt : String) (interactive : Bool) :
    Transcript.stdout (rs.flatMap (Round.entries prompt interactive)) =
      String.join (rs.map (Round.text prompt interactive)) := by
  have hround : ∀ r : Round, Transcript.stdout (r.entries prompt interactive) =
      r.text prompt interactive := by
    intro r
    rw [Round.entries, Transcript.stdout_append, Round.text, Round.printed]
    cases interactive <;> simp [Transcript.stdout]
  induction rs with
  | nil => rfl
  | cons r rs ih =>
    rw [List.flatMap_cons, Transcript.stdout_append, hround, ih, List.map_cons, String.join_cons]

/-- A watched session prints what one by itself does, a prompt before each round, and a line end
where the input ends. -/
theorem stdout_rounds_watched (prompt : String) :
    let rs := rounds sh readings files
    String.join (rs.map (Round.text prompt true)) =
      String.join (rs.map fun r => prompt ++ r.printed false) ++
        if rs.getLast? = some .endOfInput then "\n" else "" := by
  induction readings generalizing files with
  | nil => simp [rounds, Round.text, Round.printed, Round.shown, Transcript.stdout]
  | cons reading r ih =>
    have hstep : ∀ (round : Round) (rs : List Round), rs ≠ [] → round ≠ .endOfInput →
        String.join (rs.map (Round.text prompt true)) =
            String.join (rs.map fun r => prompt ++ r.printed false) ++
              (if rs.getLast? = some .endOfInput then "\n" else "") →
          String.join ((round :: rs).map (Round.text prompt true)) =
            String.join ((round :: rs).map fun r => prompt ++ r.printed false) ++
              if (round :: rs).getLast? = some .endOfInput then "\n" else "" := by
      intro round rs hrs hround h
      have hlast : (round :: rs).getLast? = rs.getLast? := by
        obtain ⟨first, others, rfl⟩ := List.exists_cons_of_ne_nil hrs
        exact List.getLast?_cons_cons
      have hsame : round.printed true = round.printed false := by
        cases round <;> first | rfl | exact absurd rfl hround
      simp only [List.map_cons, String.join_cons, h, hlast, Round.text, hsame, if_true,
        String.append_assoc]
    cases reading with
    | interrupt => exact hstep .interrupt _ rounds_ne_nil (by simp) ih
    | failed cause => simp [rounds, Round.text, Round.printed, Round.shown, Transcript.stdout]
    | line text =>
      rw [rounds]
      dsimp only
      split
      · exact hstep (.line text _) _ rounds_ne_nil (by simp) ih
      · simp [Round.text, Round.printed, Round.shown]

/-- A session without a history file is its rounds. -/
theorem session_eq_rounds (hh : sh.settings.historyFile = none) (interactive : Bool) (w : World) :
    let rs := rounds sh readings w.files
    session sh interactive readings w =
      ⟨⟨filesAfter rs w.files,
        w.transcript ++ rs.flatMap (Round.entries sh.settings.prompt interactive)⟩,
        endingOf rs, none⟩ := by
  have h : session sh interactive readings w =
      ⟨(loop sh interactive readings w).1, (loop sh interactive readings w).2, none⟩ := by
    unfold session
    cases interactive <;> simp [hh]
  rw [h, loop_eq_rounds w]

/-- Without the interrupts, a session ends the same, leaves the same files, says the same on
standard error and executes the same lines; what it prints lacks one line end, and the prompt before
it if the session is interactive, for each interrupt that was consumed. An interactive session
differs from another in what it prints only: a prompt before each attempt to read, and a line end at
the end of the input. -/
theorem session_interrupts (hh : sh.settings.historyFile = none) (events : List Event)
    (w : World) :
    let rs := rounds sh (Input.readings events) w.files
    let calm := Input.readings (events.filter (· ≠ .interrupt))
    (∀ interactive,
      let full := session sh interactive (Input.readings events) w
      let spared := session sh interactive calm w
      full.ending = spared.ending ∧ full.saving = spared.saving ∧
        full.world.files = spared.world.files ∧
        (∀ style, Transcript.stderr style full.world.transcript =
          Transcript.stderr style spared.world.transcript) ∧
        executed sh (Input.readings events) w.files = executed sh calm w.files ∧
        full.world.files = (sh.executeAll w (executed sh (Input.readings events) w.files)).files ∧
        full.world.view.stdout = w.view.stdout ++
          String.join (rs.map (Round.text sh.settings.prompt interactive)) ∧
        spared.world.view.stdout = w.view.stdout ++
          String.join ((rs.filter (· ≠ .interrupt)).map
            (Round.text sh.settings.prompt interactive)) ∧
        Round.text sh.settings.prompt interactive .interrupt =
          (if interactive then sh.settings.prompt else "") ++ "\n") ∧
    (let watched := session sh true (Input.readings events) w
      let alone := session sh false (Input.readings events) w
      watched.ending = alone.ending ∧ watched.saving = alone.saving ∧
        watched.world.files = alone.world.files ∧
        (∀ style, Transcript.stderr style watched.world.transcript =
          Transcript.stderr style alone.world.transcript) ∧
        alone.world.view.stdout = w.view.stdout ++ String.join (rs.map (Round.printed false)) ∧
        watched.world.view.stdout = w.view.stdout ++
          (String.join (rs.map fun r => sh.settings.prompt ++ r.printed false) ++
            if rs.getLast? = some .endOfInput then "\n" else "")) := by
  intro rs calm
  have hcalm : rounds sh calm w.files = rs.filter (· ≠ .interrupt) := by
    change rounds sh (Input.readings (events.filter (· ≠ .interrupt))) w.files = _
    rw [readings_without_interrupts]
    exact rounds_without_interrupts
  have hsession : ∀ interactive readings, session sh interactive readings w = _ :=
    fun interactive readings => session_eq_rounds hh interactive w
  have hstdout : ∀ interactive (rs : List Round),
      (World.mk (filesAfter rs w.files)
        (w.transcript ++ rs.flatMap (Round.entries sh.settings.prompt interactive))).view.stdout =
      w.view.stdout ++ String.join (rs.map (Round.text sh.settings.prompt interactive)) := by
    intro interactive rs
    change Transcript.stdout _ = _
    rw [Transcript.stdout_append, stdout_rounds]
    rfl
  refine ⟨?_, ?_⟩
  · intro interactive full spared
    have hfull : full = _ := hsession interactive _
    have hspared : spared = _ := hsession interactive _
    rw [hcalm] at hspared
    rw [hfull, hspared]
    refine ⟨endingOf_without_interrupts.symm, rfl, filesAfter_without_interrupts.symm, ?_, ?_, ?_,
      hstdout interactive rs, hstdout interactive _, rfl⟩
    · intro style
      simp only [Transcript.stderr_append, stderr_rounds]
      rw [own_without_interrupts]
    · rw [executed, executed, hcalm, lines_without_interrupts]
    · rw [executeAll_executed]
  · intro watched alone
    have hwatched : watched = _ := hsession true _
    have halone : alone = _ := hsession false _
    rw [hwatched, halone]
    refine ⟨rfl, rfl, rfl, ?_, ?_, ?_⟩
    · intro style
      simp only [Transcript.stderr_append, stderr_rounds]
    · have htext : Round.text sh.settings.prompt false = Round.printed false := by
        funext r
        exact String.empty_append
      rw [hstdout false rs, htext]
    · rw [hstdout true rs, stdout_rounds_watched]

/-- Two interrupts, one of them between two lines. -/
theorem session_interrupts_twice :
    let sh := Shell.stock none
    let w := World.ofFiles Tree.standard
    let events : List Event := [.interrupt, .reply "echo a\n", .interrupt, .reply "exit\n"]
    let calm := events.filter (· ≠ .interrupt)
    let full := session sh true (Input.readings events) w
    let spared := session sh true (Input.readings calm) w
    sh.settings.historyFile = none ∧ full.ending = spared.ending ∧
      full.world.view.stdout = "$ \n$ a\n$ \n$ " ∧ spared.world.view.stdout = "$ a\n$ " := by
  intro sh w events calm full spared
  obtain ⟨hending, -, -, -, -, -, hfull, hspared, -⟩ :=
    (session_interrupts (show sh.settings.historyFile = none from rfl) events w).1 true
  exact ⟨rfl, hending, hfull, hspared⟩

end LineShell.Input

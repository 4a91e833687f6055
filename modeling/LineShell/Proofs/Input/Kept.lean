import LineShell.Proofs.ErrorLines

namespace LineShell

open Files (Tree)

/-- The second world has the files of the first, and all that is shown in the first. -/
structure World.Within (v w : World) : Prop where
  files : v.files = w.files
  shown : v.transcript.Sublist w.transcript

namespace World.Within

variable {v w : World}

theorem refl (w : World) : w.Within w := ⟨rfl, List.Sublist.refl _⟩

theorem add (h : v.Within w) (es : List Entry) : v.Within (w.add es) :=
  ⟨h.files, h.shown.trans (List.sublist_append_left _ _)⟩

theorem note (h : v.Within w) (e : Log.Event) : v.Within (w.note e) := h.add _

/-- A line does the same in both worlds. -/
theorem execute (h : v.Within w) (sh : Shell) (line : String) :
    (sh.execute v line).1.Within (sh.execute w line).1 ∧
      (sh.execute v line).2 = (sh.execute w line).2 := by
  rw [Shell.execute_eq_effect sh v, Shell.execute_eq_effect sh w, h.files]
  exact ⟨⟨rfl, h.shown.append (List.Sublist.refl _)⟩, rfl⟩

end World.Within

theorem Shell.ending_of_status {sh : Shell} {w : World} {line : String} {code : Nat}
    (h : (sh.execute w line).2.ending = .status code) : code = 0 := by
  by_cases hn : (sh.execute w line).2 = .next
  · rw [hn] at h
    exact (Ending.status.inj h).symm
  · rcases verdict_eq_of_ne_next hn with hv | hv
    · rw [hv] at h
      exact (Ending.status.inj h).symm
    · rw [hv] at h
      cases h

namespace Input

variable {sh : Shell} {v w : World} {lines : List String} {readings : List Reading}
  {interactive : Bool} {number code : Nat} {line : String}

theorem closed_tidy {verdict : Verdict} (h : w.Tidy) : (closed number verdict w).Tidy := by
  cases verdict with
  | exit status => exact h.note _
  | next => exact h
  | fatal e => exact h

theorem closed_within {verdict : Verdict} (h : v.Within w) :
    v.Within (closed number verdict w) := by
  cases verdict with
  | exit status => exact h.note _
  | next => exact h
  | fatal e => exact h

theorem runLines_within (h : v.Within w) :
    (sh.executeAll v (sh.reached v.files lines)).Within (runLines sh number lines w).1 := by
  induction lines generalizing v w number with
  | nil => exact h
  | cons line lines ih =>
    obtain ⟨hx, hverdict⟩ := (h.note (.lineStarted number line)).execute sh line
    have hverdict : (sh.execute v line).2 = (numbered sh number w line).2 := hverdict
    rw [Shell.reached_cons, runLines_cons, hverdict]
    change World.Within (sh.executeAll (sh.execute v line).1 _) _
    split
    · exact ih hx
    · exact closed_within hx

theorem runLines_tidy (h : w.Tidy) : (runLines sh number lines w).1.Tidy := by
  induction lines generalizing w number with
  | nil => exact h
  | cons line lines ih =>
    have hx : (numbered sh number w line).1.Tidy :=
      (h.note (.lineStarted number line)).execute sh line
    rw [runLines_cons]
    split
    · exact ih hx
    · exact closed_tidy hx

theorem runLines_status (h : (runLines sh number lines w).2 = .status code) : code = 0 := by
  induction lines generalizing w number with
  | nil => exact (Ending.status.inj h).symm
  | cons line lines ih =>
    rw [runLines_cons] at h
    split at h
    · exact ih h
    · exact Shell.ending_of_status h

theorem loop_within (h : v.Within w) :
    (sh.executeAll v (executed sh readings v.files)).Within (loop sh interactive readings w).1 := by
  have hown : ∀ r : Round, r.own.Sublist (r.entries sh.settings.prompt interactive) := by
    intro r
    refine List.Sublist.trans ?_ (List.sublist_append_right _ _)
    cases r with
    | line text effect => exact List.Sublist.refl _
    | interrupt => exact List.nil_sublist _
    | failure cause => exact List.nil_sublist _
    | endOfInput => exact List.nil_sublist _
  have hall : ∀ rs : List Round, (rs.flatMap Round.own).Sublist
      (rs.flatMap (Round.entries sh.settings.prompt interactive)) := by
    intro rs
    induction rs with
    | nil => exact List.Sublist.refl _
    | cons r rs ih => exact (hown r).append ih
  rw [executeAll_executed, loop_eq_rounds, h.files]
  exact ⟨rfl, h.shown.append (hall _)⟩

theorem prompted_tidy (h : w.Tidy) : (prompted sh interactive w).Tidy := by
  cases interactive with
  | true => exact h.print _
  | false => exact h

theorem loop_tidy (h : w.Tidy) : (loop sh interactive readings w).1.Tidy := by
  induction readings generalizing w with
  | nil =>
    cases interactive with
    | true => exact (h.print _).print _
    | false => exact h
  | cons reading r ih =>
    have hp : (prompted sh interactive w).Tidy := prompted_tidy h
    cases reading with
    | interrupt => exact ih (hp.print _)
    | failed cause => exact hp
    | line text =>
      have hx := hp.execute sh text
      rw [loop_line]
      split
      · exact ih hx
      · exact hx

theorem loop_status (h : (loop sh interactive readings w).2 = .status code) : code = 0 := by
  induction readings generalizing w with
  | nil => exact (Ending.status.inj h).symm
  | cons reading r ih =>
    cases reading with
    | interrupt => exact ih h
    | failed cause => cases h
    | line text =>
      rw [loop_line] at h
      split at h
      · exact ih h
      · exact Shell.ending_of_status h

def scriptOf (files : Tree) (path : String) : List String :=
  match files.read path with
  | .error _ => []
  | .ok bytes =>
    match Text.Utf8.decode bytes with
    | .error _ => []
    | .ok text => scriptLines text

def prompts (sh : Shell) (interactive : Bool) : Bool :=
  match interactive, sh.settings.historyFile with
  | true, some path =>
    !Files.hasNull path && decide (sh.settings.historyLength ≤ History.maxLength)
  | _, _ => true

theorem runScript_cases (sh : Shell) (w : World) (path : String) :
    (runScript sh w path).1 = w ∧ scriptOf w.files path = [] ∧
        (∀ code, (runScript sh w path).2 ≠ .status code) ∨
      runScript sh w path = runLines sh 1 (scriptOf w.files path) w := by
  unfold runScript scriptOf
  cases w.files.read path with
  | error cause =>
    cases cause <;> exact .inl ⟨rfl, rfl, by simp⟩
  | ok bytes =>
    dsimp only
    cases Text.Utf8.decode bytes with
    | error flaw => exact .inl ⟨rfl, rfl, by simp⟩
    | ok text => exact .inr rfl

theorem session_cases (sh : Shell) (interactive : Bool) (readings : List Reading)
    (w : World) :
    let result := session sh interactive readings w
    ∃ events, (prompts sh interactive = true ∧
          result.world = (loop sh interactive readings (w.notes events)).1 ∧
          result.ending = (loop sh interactive readings (w.notes events)).2) ∨
        prompts sh interactive = false ∧ result.world = w.notes events ∧
          ∀ code, result.ending ≠ .status code := by
  intro result
  have hresult : result = session sh interactive readings w := rfl
  unfold session at hresult
  unfold prompts
  cases interactive with
  | false =>
    refine ⟨[], .inl ⟨rfl, ?_⟩⟩
    rw [hresult, World.notes_nil]
    exact ⟨rfl, rfl⟩
  | true =>
    cases hh : sh.settings.historyFile with
    | none =>
      rw [hh] at hresult
      refine ⟨[], .inl ⟨rfl, ?_⟩⟩
      rw [hresult, World.notes_nil]
      exact ⟨rfl, rfl⟩
    | some path =>
      rw [hh] at hresult
      dsimp only at hresult ⊢
      cases hnull : Files.hasNull path with
      | true =>
        rw [hnull, if_pos rfl] at hresult
        refine ⟨[], .inr ⟨rfl, ?_, ?_⟩⟩
        · rw [World.notes_nil, hresult]
        · simp [hresult]
      | false =>
        rw [hnull, if_neg Bool.false_ne_true] at hresult
        refine ⟨(History.load w.files path).2, ?_⟩
        split at hresult
        · rename_i hlong
          refine .inr ⟨by simpa using hlong, ?_, ?_⟩
          · rw [hresult]
          · simp [hresult]
        · rename_i hshort
          rw [hresult]
          exact .inl ⟨by simpa using hshort, rfl, rfl⟩

variable {path : String}

theorem runScript_within (h : v.Within w) :
    (sh.executeAll v (sh.reached v.files (scriptOf v.files path))).Within
      (runScript sh w path).1 := by
  rcases runScript_cases sh w path with ⟨hworld, hnil, -⟩ | hrun
  · rw [hworld, h.files, hnil]
    exact h
  · rw [hrun, ← h.files]
    exact runLines_within h

theorem runScript_tidy (h : w.Tidy) : (runScript sh w path).1.Tidy := by
  rcases runScript_cases sh w path with ⟨hworld, -⟩ | hrun
  · rw [hworld]
    exact h
  · rw [hrun]
    exact runLines_tidy h

theorem runScript_status (h : (runScript sh w path).2 = .status code) : code = 0 := by
  rcases runScript_cases sh w path with ⟨-, -, hne⟩ | hrun
  · exact absurd h (hne code)
  · rw [hrun] at h
    exact runLines_status h

/-- The lines that a session executes, none if it does not come to its first prompt. -/
def sessionLines (sh : Shell) (interactive : Bool) (readings : List Reading) (files : Tree) :
    List String :=
  if prompts sh interactive then executed sh readings files else []

theorem session_within (h : v.Within w) :
    (sh.executeAll v (sessionLines sh interactive readings v.files)).Within
      (session sh interactive readings w).world := by
  unfold sessionLines
  obtain ⟨events, ⟨hp, hloop, -⟩ | ⟨hp, hworld, -⟩⟩ := session_cases sh interactive readings w
  · rw [if_pos hp, hloop]
    exact loop_within (h.add _)
  · rw [if_neg (Bool.eq_false_iff.mp hp), hworld]
    exact h.add _

theorem session_tidy (h : w.Tidy) : (session sh interactive readings w).world.Tidy := by
  obtain ⟨events, ⟨-, hloop, -⟩ | ⟨-, hworld, -⟩⟩ := session_cases sh interactive readings w
  · rw [hloop]
    exact loop_tidy (h.notes _)
  · rw [hworld]
    exact h.notes _

theorem session_status (h : (session sh interactive readings w).ending = .status code) :
    code = 0 := by
  obtain ⟨events, ⟨-, -, hloop⟩ | ⟨-, -, hne⟩⟩ := session_cases sh interactive readings w
  · rw [hloop] at h
    exact loop_status h
  · exact absurd h (hne code)

/-- Only an interactive session has something to write back, and only to its history file. -/
theorem session_saving {saving : Saving}
    (h : (session sh interactive readings w).saving = some saving) :
    interactive = true ∧ sh.settings.historyFile = some saving.path := by
  unfold session at h
  split at h
  · rename_i path hh
    dsimp only at h
    split at h
    · cases h
    · split at h <;> cases h <;> exact ⟨rfl, hh⟩
  · cases h

end Input

end LineShell

import LineShell.Proofs.Files.Rewriting
import LineShell.Proofs.Input.Entries
import LineShell.Proofs.Input.Kept
import LineShell.Proofs.Starting

namespace LineShell

open Files (Framed Place Tree hasNull)

namespace Shell

def withHistory (sh : Shell) (file : Option String) (length : Nat) : Shell :=
  { sh with settings := { sh.settings with historyFile := file, historyLength := length } }

variable {sh : Shell} {P : Tree → Prop}

/-- What programs keep, and every writing of a file, is kept by every line. -/
theorem execute_keeps
    (programs : ∀ files argv, P files → P (Command.filesAfter sh.programs files argv))
    (writing : ∀ target before after, Framed target before after → P before → P after)
    (w : World) (line : String) (h : P w.files) : P (sh.execute w line).1.files := by
  apply writing _ _ _ (framed_execute sh w line)
  cases hs : sh.start? w.files line with
  | none =>
    have hn : ¬ sh.StartsProgram w.files line := by
      rintro ⟨name, r, path, hp, hr⟩
      simp [start?, hp, commandStart?, hr] at hs
    rwa [filesLeft_of_not_startsProgram hn]
  | some argv =>
    rw [filesLeft_of_starts (start?_eq_some_iff.mp hs)]
    exact programs _ _ h

theorem executeAll_keeps (step : ∀ w line, P w.files → P (sh.execute w line).1.files)
    (w : World) (lines : List String) (h : P w.files) : P (sh.executeAll w lines).files := by
  induction lines generalizing w with
  | nil => exact h
  | cons line lines ih => exact ih _ (step w line h)

end Shell

namespace Input

namespace History

/-- The path name of the file that a new history takes the place of. -/
def replaced (files : Tree) (path : String) : String := (files.linkTarget? path).getD path

/-- The history at a path name can be written: a regular file opens there, one that is there or is
created; its place is the one that the new history takes; and the new history can be begun beside
it. The path name may be a link whose target, taken from the working directory, names the file. -/
structure WritableAt (files : Tree) (path : String) (place : Place) : Prop where
  opens : ∃ mode bytes, files.target path = .ok (.file place mode bytes)
  replaces : files.entry (replaced files path) = .ok place
  drafts : ∃ target, files.target (replaced files path ++ draftSuffix) = .ok target

/-- The history at a path name can be written. -/
def Writable (files : Tree) (path : String) : Prop := ∃ place, WritableAt files path place

variable {files : Tree} {path other : String} {place q : Place} {mode : Nat}
  {content : List UInt8} {lines : List (List UInt8)}

theorem WritableAt.hasNull_eq (h : WritableAt files path place) : hasNull path = false := by
  obtain ⟨mode, bytes, ho⟩ := h.opens
  exact (Tree.target_eq_file ho).1

theorem WritableAt.exists_entry (h : WritableAt files path place) :
    ∃ e, files.entry path = .ok e := by
  cases he : files.entry path with
  | ok e => exact ⟨e, rfl⟩
  | error fault =>
    -- what is no entry is no link, and so would be replaced itself
    have hr := h.replaces
    rw [replaced, Tree.linkTarget?, he] at hr
    exact absurd (he.symm.trans hr) (by simp)

/-- A history that can be written takes its place. -/
theorem WritableAt.replace_eq (h : WritableAt files path place) (lines : List (List UInt8)) :
    replace files path lines =
      .ok (files.set place (.file historyMode (History.content lines))) := by
  obtain ⟨mode, bytes, ho⟩ := h.opens
  obtain ⟨draft, hd⟩ := h.drafts
  have hplace : files.get? place ≠ some .directory := (Tree.standing_of_target ho).not_directory
  have hr := h.replaces
  unfold replaced at hd hr
  unfold replace
  dsimp only
  rw [hd, hr]
  exact if_neg hplace

/-- Writing a regular file anywhere leaves a history writable. -/
theorem WritableAt.set (h : WritableAt files path place)
    (ho : files.target other = .ok (.file q mode content)) (mode' : Nat) (bytes : List UInt8) :
    WritableAt (files.set q (.file mode' bytes)) path place := by
  obtain ⟨e, he⟩ := h.exists_entry
  have hlink : replaced (files.set q (.file mode' bytes)) path = replaced files path := by
    rw [replaced, replaced, Tree.linkTarget?_set ho he]
  obtain ⟨_, _, hopens⟩ := h.opens
  obtain ⟨draft, hdraft⟩ := h.drafts
  refine ⟨?_, ?_, ?_⟩
  · obtain ⟨y, hy, hplace⟩ := Tree.target_set ho hopens mode' bytes
    cases y with
    | file p m c =>
      cases hplace
      exact ⟨m, c, hy⟩
    | device kind => cases hplace
  · rw [hlink]
    exact Tree.entry_set ho h.replaces mode' bytes
  · rw [hlink]
    obtain ⟨y, hy, -⟩ := Tree.target_set ho hdraft mode' bytes
    exact ⟨y, hy⟩

/-- Lines without a line feed are saved, and cut to the last of them. -/
theorem WritableAt.save_eq (h : WritableAt files path place) (hl : ∀ l ∈ lines, lineFeed ∉ l)
    (n : Nat) :
    save files path lines (some n) =
      (files.set place (.file historyMode (History.content (lastOf n lines))), []) := by
  obtain ⟨mode, bytes, ho⟩ := h.opens
  have hread : (files.set place (.file historyMode (History.content lines))).read path =
      .ok (History.content lines) := Tree.read_set ho _
  have hagain := (h.set ho historyMode (History.content lines)).replace_eq (lastOf n lines)
  rw [Tree.set_set] at hagain
  unfold save
  rw [h.replace_eq]
  dsimp only
  rw [hread]
  dsimp only
  rw [dropLast_pieces_content hl, hagain]
  split
  · rename_i hfew
    have hall : lastOf n lines = lines := by
      rw [lastOf, Nat.sub_eq_zero_of_le hfew, List.drop_zero]
    rw [hall]
  · rfl

theorem Writable.framed {target : Option String} {before after : Tree}
    (hf : Framed target before after) (h : Writable before path) : Writable after path := by
  cases hf with
  | untouched => exact h
  | written _ opened bytes =>
    obtain ⟨place, h⟩ := h
    exact ⟨place, h.set opened _ bytes⟩

end History

variable {sh : Shell} {path : String} {readings : List Reading} {interactive : Bool} {v w : World}

/-- What is written back is the last of the lines, to the file and to nothing else. -/
theorem carryOut_of_writableAt {place : Place} {lines : List (List UInt8)}
    (h : History.WritableAt v.files path place) (hl : ∀ l ∈ lines, History.lineFeed ∉ l) (n : Nat) :
    Saving.carryOut (some ⟨path, lines, some n⟩) v =
      { v with
        files := v.files.set place
          (.file History.historyMode (History.content (History.lastOf n lines))) } := by
  unfold Saving.carryOut
  dsimp only
  rw [h.save_eq hl]
  exact World.notes_nil _

/-- A session with a history is its rounds, after the history has been loaded; what it writes back
is known by then. -/
theorem session_loaded (file : sh.settings.historyFile = some path) (plain : hasNull path = false)
    (fits : sh.settings.historyLength ≤ History.maxLength) :
    let run := loop sh true readings (w.notes (History.load w.files path).2)
    session sh true readings w = ⟨run.1, run.2,
      some ⟨path, History.held w.files path, some sh.settings.historyLength⟩⟩ := by
  intro run
  unfold session
  rw [file]
  dsimp only
  rw [if_neg (by simp [plain]), if_neg (Nat.not_lt.mpr fits), History.load_eq plain]

/-- What the lines of a session keep, it keeps. -/
theorem session_keeps (P : Tree → Prop)
    (step : ∀ w line, P w.files → P (sh.execute w line).1.files) (h : P w.files) :
    P (session sh interactive readings w).world.files := by
  rw [← (session_within (World.Within.refl w)).files]
  exact Shell.executeAll_keeps step w _ h

/-- The rounds of a session do not depend on its history. -/
theorem loop_withHistory (sh : Shell) (file : Option String) (length : Nat) (interactive : Bool)
    (readings : List Reading) (w : World) :
    loop (sh.withHistory file length) interactive readings w = loop sh interactive readings w := by
  induction readings generalizing w with
  | nil => rfl
  | cons reading r ih =>
    cases reading with
    | interrupt => exact ih _
    | failed cause => rfl
    | line text =>
      have hexecute : ∀ v, (sh.withHistory file length).execute v text = sh.execute v text :=
        fun v => rfl
      have hprompted : prompted (sh.withHistory file length) interactive w =
        prompted sh interactive w := rfl
      rw [loop_line, loop_line, hprompted, hexecute, ih]

/-- A session without a history is its rounds, and has nothing to write back. -/
theorem session_without_history {file : Option String} (h : interactive = false ∨ file = none)
    (sh : Shell) (length : Nat) (readings : List Reading) (w : World) :
    let run := loop sh interactive readings w
    session (sh.withHistory file length) interactive readings w = ⟨run.1, run.2, none⟩ := by
  intro run
  have hrun : run = loop (sh.withHistory file length) interactive readings w :=
    (loop_withHistory sh file length interactive readings w).symm
  rw [hrun]
  unfold session
  rcases h with rfl | rfl
  · rfl
  · cases interactive <;> rfl

/-- A session that keeps a history loads its lines at the start. However it ends, and whatever is
shown before it is saved, the last of these lines are then in the file if that can be written, and
nothing else has changed; and it can be written if it could be at the start and programs leave it
so. Of plain lines those are loaded that are not empty. A session that nobody watches, or that has
no history file, is its rounds: which history is set makes no difference to it, and nothing is
written back. -/
theorem history_saved (sh : Shell) (readings : List Reading) (w : World) :
    (∀ path, sh.settings.historyFile = some path →
      sh.settings.historyLength ≤ History.maxLength →
      let held := History.held w.files path
      let kept := History.content (held.drop (held.length - sh.settings.historyLength))
      let r := session sh true readings w
      (History.Writable r.world.files path → ∀ v : World, v.files = r.world.files →
        let after := Saving.carryOut r.saving v
        after.files.read path = .ok kept ∧ ∃ place, History.WritableAt v.files path place ∧
          after = { v with files := v.files.set place (.file History.historyMode kept) }) ∧
      (History.Writable w.files path →
        (∀ files argv, History.Writable files path →
          History.Writable (Command.filesAfter sh.programs files argv) path) →
        History.Writable r.world.files path) ∧
      ∀ lines, (∀ l ∈ lines, History.PlainLine l) →
        History.isStamp (History.content lines) = false →
        w.files.read path = .ok (History.content lines) →
        held = lines.filter fun l => !l.isEmpty) ∧
    ∀ file length interactive, interactive = false ∨ file = none →
      let r := session (sh.withHistory file length) interactive readings w
      let run := loop sh interactive readings w
      r.world = run.1 ∧ r.ending = run.2 ∧ ∀ v : World, Saving.carryOut r.saving v = v := by
  refine ⟨?_, ?_⟩
  · intro path file fits held kept r
    refine ⟨?_, ?_, ?_⟩
    · rintro ⟨place, hw⟩ v hv after
      have hsaving : r.saving = some ⟨path, held, some sh.settings.historyLength⟩ :=
        congrArg Result.saving (session_loaded file hw.hasNull_eq fits)
      rw [← hv] at hw
      have hafter : after = { v with
          files := v.files.set place (.file History.historyMode kept) } := by
        change Saving.carryOut r.saving v = _
        rw [hsaving]
        exact carryOut_of_writableAt hw (fun l => History.not_mem_of_mem_held) _
      obtain ⟨mode, bytes, ho⟩ := hw.opens
      refine ⟨?_, place, hw, hafter⟩
      rw [hafter]
      exact Tree.read_set ho kept
    · intro hw hprograms
      have hstep : ∀ w line, History.Writable w.files path →
          History.Writable (sh.execute w line).1.files path :=
        Shell.execute_keeps hprograms fun _ _ _ => History.Writable.framed
      exact session_keeps (History.Writable · path) hstep hw
    · intro lines hplain hstamp hread
      exact (History.held_of_read hread).trans (History.entries_content hplain hstamp)
  · intro file length interactive h r run
    have hr : r = ⟨run.1, run.2, none⟩ := session_without_history h sh length readings w
    rw [hr]
    exact ⟨rfl, rfl, fun v => rfl⟩

/-- A line writes to the history file, and the next that is read ends the shell by a search path
that is not set. -/
theorem history_saved_stopped :
    let sh : Shell := ⟨{ Settings.default with historyFile := some "h", historyLength := 2 }, none,
      (Shell.stock none).programs⟩
    let lines : List (List UInt8) := [[97], [], [98], [99]]
    let w := World.ofFiles (Tree.standard.set ["h", "box", "tmp"]
      (.file Files.newFileMode (History.content lines)))
    let readings : List Reading := [.line "echo x > h", .interrupt, .line "nope"]
    History.Writable w.files "h" ∧
      (session sh true readings w).ending = .fatal .pathNotSet ∧
      (session sh true readings w).world.files.read "h" = .ok [120] ∧
      (Saving.carryOut (session sh true readings w).saving
        (session sh true readings w).world).files.read "h" = .ok [98, 10, 99, 10] ∧
      (session (sh.withHistory (some "h") 2) false readings w).world =
        (loop sh false readings w).1 := by
  intro sh lines w readings
  have hw : History.Writable w.files "h" :=
    ⟨["h", "box", "tmp"], ⟨_, _, rfl⟩, by decide +kernel,
      .file ["h-00000.tmp", "box", "tmp"] Files.newFileMode [], by decide +kernel⟩
  have hplain : ∀ l ∈ lines, History.PlainLine l := by
    have hall : ∀ l ∈ lines, History.lineFeed ∉ l ∧ 0 ∉ l ∧ l.getLast? ≠ some 13 := by decide
    exact fun l hl => ⟨(hall l hl).1, (hall l hl).2.1, (hall l hl).2.2⟩
  have hprograms : ∀ files argv, Command.filesAfter sh.programs files argv = files :=
    fun files argv => ite_self files
  obtain ⟨hsaved, hnone⟩ := history_saved sh readings w
  obtain ⟨hkept, hleft, hheld⟩ := hsaved "h" rfl (by decide)
  have hleft := hleft hw fun files argv h => (hprograms files argv).symm ▸ h
  have hlines : History.held w.files "h" = [[97], [98], [99]] :=
    hheld lines hplain (by decide) rfl
  have hread := (hkept hleft _ rfl).1
  rw [hlines] at hread
  exact ⟨hw, by decide +kernel, by decide +kernel, hread, (hnone (some "h") 2 false (.inl rfl)).1⟩

end Input

end LineShell

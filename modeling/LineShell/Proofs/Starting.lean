import LineShell.Proofs.Frame
import LineShell.Proofs.Resolution

namespace LineShell

open Files (Framed Tree hasNull)

/-- What a line does to the system. -/
inductive Act where
  /-- It attempts to start a program. -/
  | starts (argv : List String)
  /-- It attempts to open a file for writing. -/
  | opens (path : String)
deriving Repr, DecidableEq

def Entry.act? : Entry → Option Act
  | .log (.spawning argv) => some (.starts argv)
  | .log (.writing _ path) => some (.opens path)
  | _ => none

def Transcript.acts (es : List Entry) : List Act := es.filterMap Entry.act?

namespace World

def acts (w : World) : List Act := Transcript.acts w.transcript

variable (w : World)

theorem acts_add (es : List Entry) : (w.add es).acts = w.acts ++ Transcript.acts es :=
  List.filterMap_append

@[simp] theorem acts_with_files (files : Tree) :
    ({ w with files := files } : World).acts = w.acts := rfl

@[simp] theorem acts_print (text : String) : (w.print text).acts = w.acts := by
  rw [print, acts_add]
  exact List.append_nil _

@[simp] theorem acts_complain (message : String) : (w.complain message).acts = w.acts := by
  rw [complain, acts_add]
  exact List.append_nil _

theorem acts_note (e : Log.Event) : (w.note e).acts = w.acts ++ (Entry.act? (.log e)).toList := by
  rw [note, acts_add, Transcript.acts]
  cases h : Entry.act? (.log e) <;> simp [h]

/-- Most notes tell of nothing done. -/
theorem acts_note_of_none {e : Log.Event} (h : Entry.act? (.log e) = none) :
    (w.note e).acts = w.acts := by
  rw [acts_note, h]
  exact List.append_nil _

theorem acts_notes (es : List Log.Event) :
    (w.notes es).acts = w.acts ++ es.filterMap fun e => Entry.act? (.log e) := by
  rw [notes, acts_add, Transcript.acts, List.filterMap_map]
  rfl

theorem acts_save (path text : String) : (w.save path text).1.acts = w.acts ++ [.opens path] := by
  rw [save_eq]
  cases w.files.write path (Text.Utf8.encode text.toList) with
  | ok files => exact acts_note w _
  | error cause => exact acts_note w _

/-- A file is opened once, also if it cannot be written and this is shown. -/
theorem acts_saved (path text : String) :
    World.acts (match w.save path text with
      | (v, none) => v
      | (v, some failure) => v.complain failure.message) = w.acts ++ [.opens path] := by
  have hs := acts_save w path text
  generalize w.save path text = saved at hs ⊢
  obtain ⟨v, failure⟩ := saved
  cases failure with
  | none => exact hs
  | some failure => exact (acts_complain v _).trans hs

theorem acts_report (target : Option String) (e : LineError) :
    (w.report target e).acts = w.acts ++ target.toList.map .opens := by
  cases target with
  | none =>
    rw [report, acts_complain]
    exact (List.append_nil _).symm
  | some path => exact acts_saved w path e.message

theorem acts_deliver (target : Option String) (text : String) :
    (w.deliver target text).acts = w.acts ++ target.toList.map .opens := by
  cases target with
  | none =>
    rw [deliver, acts_print]
    exact (List.append_nil _).symm
  | some path => exact acts_saved w path text

end World

namespace Line

variable {strict : Bool} {rest : List String} {r : Redirection}

theorem Parses.args_eq (h : Parses strict rest r) : r.args = rest.takeWhile (· ≠ marker) := by
  have hr := h.redirection_eq
  unfold redirection at hr
  dsimp only at hr
  split at hr
  · cases hr
    rfl
  · split at hr
    · cases hr
    · split at hr
      · cases hr
      · cases hr
        rfl
      · split at hr
        · cases hr
        · cases hr
          rfl

/-- What an accepted redirection leaves of the tokens is all of them, or those before the marker. -/
theorem Parses.rest_cases (h : Parses strict rest r) :
    rest = r.args ∨ ∃ target dropped, rest = r.args ++ marker :: target :: dropped := by
  cases h with
  | plain => exact .inl rfl
  | sent => exact .inr ⟨_, [], rfl⟩
  | dropping => exact .inr ⟨_, _, List.append_assoc ..⟩

theorem Parses.marker_not_mem (h : Parses strict rest r) : marker ∉ r.args := by
  cases h with
  | plain ha => exact ha
  | sent ha => exact ha
  | dropping _ ha => exact ha

end Line

namespace Command

/-- The files after an attempt to start a program: those that it leaves, or the same as before if it
is not started. -/
def filesAfter (programs : Programs) (files : Tree) (argv : List String) : Tree :=
  if argv.any hasNull then files
  else match programs files argv with
    | .refused _ => files
    | .ended _ _ _ left => left

theorem files_run (programs : Programs) (files : Tree) (path : String) (args : List String) :
    (run programs files path args).files = filesAfter programs files (path :: args) := by
  unfold run filesAfter
  dsimp only
  split
  · rfl
  · cases programs files (path :: args) <;> rfl

theorem acts_run (programs : Programs) (files : Tree) (path : String) (args : List String) :
    ((run programs files path args).events.filterMap fun e => Entry.act? (.log e)) =
      [.starts (path :: args)] := by
  unfold run
  dsimp only
  split
  · rfl
  · cases programs files (path :: args) <;> rfl

theorem run_congr {programs programs' : Programs} {files : Tree} {path : String}
    {args : List String} (h : programs files (path :: args) = programs' files (path :: args)) :
    run programs files path args = run programs' files path args := by
  unfold run
  dsimp only
  rw [h]

variable {files : Tree} {searchPath : Option String} {name path : String}

theorem slash_mem_join {directory : String} (h : directory ≠ "") (name : String) :
    '/' ∈ (Files.Path.join directory name).toList := by
  unfold Files.Path.join
  split
  · exact List.mem_of_head? (by assumption)
  · split
    · rename_i hd
      have hl : directory.toList.getLast? = some '/' := by simpa [h] using hd
      rw [String.toList_append]
      exact List.mem_append_left _ (List.mem_of_getLast? hl)
    · simp

theorem slash_mem_candidate (name entry : String) : '/' ∈ (candidate name entry).toList := by
  refine slash_mem_join ?_ name
  split
  · decide
  · assumption

/-- A program that a name stands for is there, and its path name is no bare name. -/
theorem external_found (h : resolve files searchPath name = .ok (.external path)) :
    files.has path = true ∧ '/' ∈ path.toList := by
  have hr := resolve_eq_iff.mp h
  generalize he : Except.ok (Resolution.external path) = result at hr
  cases hr with
  | literal plain slash found =>
    cases he
    exact ⟨found, slash⟩
  | first searched some entries earlier found =>
    cases he
    exact ⟨found, slash_mem_candidate _ _⟩
  | builtin | unset | nowhere => cases he

end Command

namespace Shell

/-- The line starts a program with this argument vector. -/
inductive Starts (sh : Shell) (files : Tree) (line : String) : List String → Prop where
  | intro {name path : String} {rest : List String} {r : Line.Redirection}
      (tokens : Line.tokens sh.settings.commentMark line = name :: rest)
      (parses : Line.Parses sh.settings.strictRedirection rest r)
      (plain : ∀ b : Command.Builtin, name ≠ b.name)
      (resolves : Command.resolve files sh.searchPath name = .ok (.external path)) :
      Starts sh files line (path :: r.args)

def commandStart? (sh : Shell) (files : Tree) (name : String) (args : List String) :
    Option (List String) :=
  match Command.resolve files sh.searchPath name with
  | .ok (.external path) => some (path :: args)
  | _ => none

def start? (sh : Shell) (files : Tree) (line : String) : Option (List String) :=
  (sh.parsed? line).bind fun (name, r) => sh.commandStart? files name r.args

variable {sh : Shell} {files : Tree} {line name : String} {w : World} {argv : List String}

theorem commandStart?_eq_some_iff {args : List String} :
    sh.commandStart? files name args = some argv ↔
      ∃ path, Command.resolve files sh.searchPath name = .ok (.external path) ∧
        argv = path :: args := by
  unfold commandStart?
  cases Command.resolve files sh.searchPath name with
  | error e => simp
  | ok resolution => cases resolution <;> simp [eq_comm]

theorem start?_eq_some_iff : sh.start? files line = some argv ↔ sh.Starts files line argv := by
  unfold start?
  constructor
  · intro h
    obtain ⟨⟨name, r⟩, hp, hs⟩ := Option.bind_eq_some_iff.mp h
    obtain ⟨rest, ht, hr⟩ := parsed?_eq_some_iff.mp hp
    obtain ⟨path, hres, rfl⟩ := commandStart?_eq_some_iff.mp hs
    refine .intro ht (Line.redirection_eq_ok_iff.mp hr) ?_ hres
    intro b hb
    cases hres.symm.trans (Command.resolve_eq_builtin_iff.mpr hb)
  · rintro ⟨ht, hparses, -, hres⟩
    rw [parsed?_eq_some_iff.mpr ⟨_, ht, hparses.redirection_eq⟩]
    exact commandStart?_eq_some_iff.mpr ⟨_, hres, rfl⟩

theorem carryOut_acts (sh : Shell) (w : World) (name : String) (args : List String)
    (resolution : Command.Resolution) :
    (sh.carryOut w name args resolution).1.acts =
      w.acts ++ match resolution with
        | .external path => [.starts (path :: args)]
        | _ => [] := by
  cases resolution with
  | builtin b =>
    cases b with
    | echo => exact (List.append_nil _).symm
    | exit => exact World.acts_note w _
  | external path =>
    dsimp only [carryOut]
    rw [World.acts_notes, Command.acts_run]
    rfl
  | notFound => exact (List.append_nil _).symm

/-- What a command opens, if it does not end the shell: its target. -/
def opens (verdict : Verdict) (target : Option String) : List Act :=
  if verdict = .next then target.toList.map .opens else []

theorem perform_acts (sh : Shell) (w : World) (name : String) (target : Option String)
    (args : List String) :
    (sh.perform w name target args).1.acts =
      w.acts ++ ((sh.commandStart? w.files name args).toList.map .starts ++
        opens (sh.perform w name target args).2 target) := by
  unfold perform
  cases hr : Command.resolve w.files sh.searchPath name with
  | error e => simp [commandStart?, hr, opens]
  | ok resolution =>
    dsimp only
    have hbefore : ((w.notes (resolution.events name)).note
        (.commandStarted resolution.kind name args)).acts = w.acts := by
      rw [World.acts_note_of_none _ rfl, World.acts_notes]
      cases resolution with
      | builtin b => exact List.append_nil _
      | external path =>
        dsimp only [Command.Resolution.events]
        split <;> exact List.append_nil _
      | notFound => exact List.append_nil _
    have hcarried := carryOut_acts sh ((w.notes (resolution.events name)).note
      (.commandStarted resolution.kind name args)) name args resolution
    rw [hbefore] at hcarried
    generalize sh.carryOut _ name args resolution = carried at hcarried ⊢
    obtain ⟨v, result⟩ := carried
    have hv : v.acts = w.acts ++ (sh.commandStart? w.files name args).toList.map .starts := by
      rw [commandStart?, hr]
      cases resolution <;> exact hcarried
    rw [← List.append_assoc]
    rcases result with e | text | status
    · dsimp only
      rw [World.acts_report, World.acts_note_of_none _ rfl, hv]
      rfl
    · dsimp only
      rw [World.acts_deliver, hv]
      rfl
    · exact hv.trans (List.append_nil _).symm

/-- A line starts at most one program, and then opens its target if it has one. -/
theorem execute_acts (sh : Shell) (w : World) (line : String) :
    (sh.execute w line).1.acts =
      w.acts ++ ((sh.start? w.files line).toList.map .starts ++
        opens (sh.execute w line).2 (sh.target? line)) := by
  unfold execute start? target? parsed?
  cases Line.tokens sh.settings.commentMark line with
  | nil => simp [opens]
  | cons name rest =>
    dsimp only
    cases Line.redirection sh.settings.strictRedirection rest with
    | error e =>
      dsimp only
      rw [World.acts_report, World.acts_note_of_none _ rfl]
      rfl
    | ok r =>
      dsimp only [Except.toOption, Option.map_some, Option.bind_some]
      split
      · exact perform_acts sh w name r.target r.args
      · rw [perform_acts, World.acts_note_of_none _ rfl, World.files_note]

section Programs

variable {sh' : Shell}

theorem perform_congr_programs {target : Option String} {args : List String}
    (hp : sh'.searchPath = sh.searchPath)
    (h : ∀ argv, sh.commandStart? w.files name args = some argv →
      sh'.programs w.files argv = sh.programs w.files argv) :
    sh'.perform w name target args = sh.perform w name target args := by
  unfold perform
  rw [hp]
  cases hr : Command.resolve w.files sh.searchPath name with
  | error e => rfl
  | ok resolution =>
    dsimp only
    let v := (w.notes (resolution.events name)).note
      (.commandStarted resolution.kind name args)
    have hcarried : sh'.carryOut v name args resolution = sh.carryOut v name args resolution := by
      cases resolution with
      | builtin b => rfl
      | notFound => rfl
      | external path =>
        have hrun := Command.run_congr (h _ (commandStart?_eq_some_iff.mpr ⟨path, hr, rfl⟩))
        have hv : v.files = w.files := rfl
        dsimp only [carryOut]
        rw [hv, hrun]
    rw [hcarried]

/-- What a line does depends on one program only, and on what this makes of the files that the line
finds. -/
theorem execute_congr_programs (hs : sh'.settings = sh.settings)
    (hp : sh'.searchPath = sh.searchPath)
    (h : ∀ argv, sh.start? w.files line = some argv →
      sh'.programs w.files argv = sh.programs w.files argv) :
    sh'.execute w line = sh.execute w line := by
  unfold start? parsed? at h
  unfold execute
  rw [hs]
  cases ht : Line.tokens sh.settings.commentMark line with
  | nil => rfl
  | cons name rest =>
    rw [ht] at h
    dsimp only at h ⊢
    cases hr : Line.redirection sh.settings.strictRedirection rest with
    | error e => rfl
    | ok r =>
      rw [hr] at h
      dsimp only
      split
      · exact perform_congr_programs hp h
      · exact perform_congr_programs hp h

end Programs

theorem filesLeft_of_starts (h : sh.Starts files line argv) :
    sh.filesLeft files line = Command.filesAfter sh.programs files argv := by
  obtain ⟨ht, hparses, -, hres⟩ := h
  rw [filesLeft, parsed?_eq_some_iff.mpr ⟨_, ht, hparses.redirection_eq⟩]
  dsimp only
  rw [commandFiles, hres]
  exact Command.files_run _ _ _ _

/-- The vector of a started program: its path name, which leads to something and holds a slash, and
the tokens between the command name and the marker. -/
structure ArgVector (sh : Shell) (files : Tree) (line : String) (path : String)
    (args : List String) : Prop where
  found : files.has path = true
  slash : '/' ∈ path.toList
  tokens : ∃ name rest, Line.tokens sh.settings.commentMark line = name :: rest ∧
    Command.resolve files sh.searchPath name = .ok (.external path) ∧
    args = rest.takeWhile (· ≠ Line.marker) ∧
    (rest = args ∨ ∃ target dropped, rest = args ++ Line.marker :: target :: dropped)
  plain : Line.marker ∉ args

theorem Starts.vector (h : sh.Starts files line argv) :
    ∃ path args, argv = path :: args ∧ sh.ArgVector files line path args := by
  obtain ⟨ht, hparses, -, hres⟩ := h
  obtain ⟨found, slash⟩ := Command.external_found hres
  exact ⟨_, _, rfl, found, slash, ⟨_, _, ht, hres, hparses.args_eq, hparses.rest_cases⟩,
    hparses.marker_not_mem⟩

/-- A line starts at most one program, and starts one exactly if it has tokens, its redirection is
well formed, its command is no builtin and stands for a program. Then it starts that program with
the tokens up to the marker, on the files that the line finds; its target is opened after that,
among the files that the program leaves. What the line does depends on nothing else that programs
do. -/
theorem execute_starts (sh : Shell) (w : World) (line : String) :
    let after := (sh.execute w line).1
    (∃ (started : List (List String)) (targets : List String),
      after.acts = w.acts ++ (started.map .starts ++ targets.map .opens) ∧
      started.length ≤ 1 ∧ (∀ argv, argv ∈ started ↔ sh.Starts w.files line argv) ∧
      targets <+: (sh.target? line).toList) ∧
    (∀ argv, sh.Starts w.files line argv →
      (∃ path args, argv = path :: args ∧ sh.ArgVector w.files line path args) ∧
      Framed (sh.target? line) (Command.filesAfter sh.programs w.files argv) after.files) ∧
    ∀ sh' : Shell, sh'.settings = sh.settings → sh'.searchPath = sh.searchPath →
      (∀ argv, sh.Starts w.files line argv →
        sh'.programs w.files argv = sh.programs w.files argv) →
      sh'.execute w line = sh.execute w line := by
  intro after
  refine ⟨?_, ?_, ?_⟩
  · have hacts := execute_acts sh w line
    have hstarted : ∀ argv, argv ∈ (sh.start? w.files line).toList ↔
        sh.Starts w.files line argv := by
      intro argv
      rw [Option.mem_toList]
      exact start?_eq_some_iff
    have hlength : (sh.start? w.files line).toList.length ≤ 1 := by
      cases sh.start? w.files line <;> simp
    unfold opens at hacts
    by_cases hn : (sh.execute w line).2 = .next
    · rw [if_pos hn] at hacts
      exact ⟨_, _, hacts, hlength, hstarted, List.prefix_rfl⟩
    · rw [if_neg hn] at hacts
      exact ⟨_, [], hacts, hlength, hstarted, List.nil_prefix⟩
  · intro argv h
    refine ⟨h.vector, ?_⟩
    rw [← filesLeft_of_starts h]
    exact framed_execute sh w line
  · intro sh' hs hp h
    refine execute_congr_programs hs hp ?_
    intro argv hstart
    exact h argv (start?_eq_some_iff.mp hstart)

/-- A program that reads the target of its own line, where tokens after the target are dropped. On
other files it may do anything. -/
theorem execute_starts_reading :
    let files := (Tree.standard.set ["tool", "box", "tmp"] (.file 0o755 [])).set
      ["out", "box", "tmp"] (.file 0o644 [97])
    let twice : Command.Programs := fun files _ =>
      match files.read "out" with
      | .ok bytes => .ended 0 (bytes ++ bytes) [] files
      | .error _ => .refused .notExecutable
    let sh : Shell := ⟨{ Settings.default with strictRedirection := false }, some "bin:", twice⟩
    let after := (sh.execute (World.ofFiles files) "tool out > out extra").1
    sh.Starts files "tool out > out extra" ["./tool", "out"] ∧
      after.acts = [.starts ["./tool", "out"], .opens "out"] ∧
      Framed (some "out") files after.files ∧
      ∀ programs : Command.Programs,
        programs files ["./tool", "out"] = .ended 0 [97, 97] [] files →
        (({ sh with programs := programs } : Shell).execute (World.ofFiles files)
          "tool out > out extra").1 = after := by
  intro files twice sh after
  have ht : Line.tokens sh.settings.commentMark "tool out > out extra" =
      "tool" :: (["out"] ++ [Line.marker, "out"] ++ ["extra"]) := by decide +kernel
  have hparses : Line.Parses sh.settings.strictRedirection
      (["out"] ++ [Line.marker, "out"] ++ ["extra"]) ⟨some "out", ["out"], ["extra"]⟩ :=
    .dropping rfl (by decide) (by decide) (by decide)
  have hstarts : sh.Starts files "tool out > out extra" ["./tool", "out"] := by
    refine .intro ht hparses ?_ (by rfl)
    rintro (_ | _) <;> decide
  have hp := start?_eq_some_iff.mpr hstarts
  obtain ⟨-, hframed, hprograms⟩ :=
    execute_starts sh (World.ofFiles files) "tool out > out extra"
  refine ⟨hstarts, ?_, (hframed _ hstarts).2, ?_⟩
  · decide +kernel
  · intro programs hagree
    have hsame := hprograms { sh with programs := programs } rfl rfl ?_
    · exact congrArg Prod.fst hsame
    · intro argv h
      cases hp.symm.trans (start?_eq_some_iff.mpr h)
      exact hagree

end Shell

end LineShell

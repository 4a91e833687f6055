import LineShell.Settings.File

namespace LineShell.Settings

open Files (Environment Path.expandHome)
open Files

variable {α : Type} {c : Coercions} {environment : Environment} {values : List (String × Value)}
  {name : String} {default a : α} {read : Value → Except Issue α} {s : Settings} {v : Value}
  {u : Unhandled}

/-- The path name that values give for the history file, or the one to fall back on. -/
inductive HistoryAt (c : Coercions) (values : List (String × Value)) : String → Prop where
  | given {v : Value} {path : String} (value : values.lookup "history_file" = some v)
      (present : v ≠ .null) (written : c.written v = .ok path) : HistoryAt c values path
  | usual (absent : values.lookup "history_file" = none) : HistoryAt c values defaultHistoryFile

/-- What values say of the history file that is wrong in a way which is not reported. -/
inductive HistoryEscapes (c : Coercions) (environment : Environment)
    (values : List (String × Value)) : Unhandled → Prop where
  /-- It is in a home directory that is not known. -/
  | homeless {path : String} (given : HistoryAt c values path)
      (unknown : Path.expandHome environment path = .error .unknown) :
      HistoryEscapes c environment values .homeUnknown
  | unwritten {v : Value} {failure : Failure} (value : values.lookup "history_file" = some v)
      (present : v ≠ .null) (fails : c.written v = .error (.underneath failure)) :
      HistoryEscapes c environment values (.underneath failure)

/-- The setting of this name is `a`: read from its value, or fallen back on if it has none. -/
def Gives (values : List (String × Value)) (name : String) (default : α)
    (read : Value → Except Issue α) (a : α) : Prop :=
  match values.lookup name with
  | none => a = default
  | some v => read v = .ok a

/-- These settings are what the values say. -/
structure Validates (c : Coercions) (environment : Environment) (values : List (String × Value))
    (s : Settings) : Prop where
  prompt : Gives values "prompt" "$ " c.toText s.prompt
  commentMark : Gives values "comment_prefix" (some "#") (toMark c) s.commentMark
  strictRedirection : Gives values "strict_redirection" true c.toBool s.strictRedirection
  ignoreInterrupts : Gives values "ignore_interrupt" true c.toBool s.ignoreInterrupts
  historyFile :
    toHistoryFile c environment (values.lookup "history_file") = .ok (.ok s.historyFile)
  historyLength : Gives values "history_length" 1000 (toLength c) s.historyLength
  known : ∀ v ∈ values, v.1 ∈ names

/-- Settings that the shell can work with: what marks comments is a word. -/
def Valid (s : Settings) : Prop :=
  ∀ mark, s.commentMark = some mark →
    mark ≠ "" ∧ ∀ c ∈ mark.toList, Text.isBlank c = false

theorem setting_eq_ok_iff :
    setting values name default read = .ok a ↔ Gives values name default read a := by
  unfold setting Gives
  cases values.lookup name with
  | none => simp [eq_comm]
  | some v => cases h : read v <;> simp [h]

section Home

variable {path path' file : String} {rest rest' : List String}

theorem expandHome_own (hp : Path.Parts.ofPath path = ⟨"", "~" :: rest⟩) :
    Path.expandHome environment path =
      Path.known environment.home? >>= fun home => Path.below home rest := by
  unfold Path.expandHome
  rw [hp]
  rfl

theorem below_cases (directory : String) (names names' : List String) :
    (Path.below directory names = .error .unknown ∧
        Path.below directory names' = .error .unknown) ∨
      ∃ file file', Path.below directory names = .ok file ∧
        Path.below directory names' = .ok file' := by
  unfold Path.below
  dsimp only
  split
  · exact .inl ⟨rfl, rfl⟩
  · exact .inr ⟨_, _, rfl, rfl⟩

/-- Path names below the home directory of the process are all found, or none of them is. -/
theorem expandHome_own_cases (environment : Environment)
    (hp : Path.Parts.ofPath path = ⟨"", "~" :: rest⟩)
    (hp' : Path.Parts.ofPath path' = ⟨"", "~" :: rest'⟩) :
    (Path.expandHome environment path = .error .unknown ∧
        Path.expandHome environment path' = .error .unknown) ∨
      ∃ file file', Path.expandHome environment path = .ok file ∧
        Path.expandHome environment path' = .ok file' := by
  rw [expandHome_own hp, expandHome_own hp']
  cases environment.home? with
  | none => exact .inl ⟨rfl, rfl⟩
  | some directory => exact below_cases directory rest rest'

theorem parts_usualFile : Path.Parts.ofPath usualFile = ⟨"", ["~", ".pathshell.yaml"]⟩ := by
  decide

theorem parts_defaultHistoryFile :
    Path.Parts.ofPath defaultHistoryFile = ⟨"", ["~", ".pathshell_history"]⟩ := by
  decide

theorem expand_eq_error_iff :
    expand environment path = .error u ↔
      u = .homeUnknown ∧ Path.expandHome environment path = .error .unknown := by
  unfold expand
  cases Path.expandHome environment path with
  | ok file => simp
  | error fault => cases fault <;> simp [eq_comm]

theorem expand_of_expandHome (h : Path.expandHome environment path = .ok file) :
    expand environment path = .ok (.ok (some file)) := by
  rw [expand, h]

/-- The path to fall back on is no problem: it is found, or its home directory is not known. -/
theorem expand_defaultHistoryFile {path : Except Issue (Option String)}
    (h : expand environment defaultHistoryFile = .ok path) : ∃ file, path = .ok (some file) := by
  rcases expandHome_own_cases environment parts_defaultHistoryFile parts_usualFile with
    ⟨hn, -⟩ | ⟨file, -, hf, -⟩
  · rw [expand_eq_error_iff.mpr ⟨rfl, hn⟩] at h
    cases h
  · rw [expand_of_expandHome hf] at h
    cases h
    exact ⟨file, rfl⟩

end Home

theorem toPath_of_ne_null (h : v ≠ .null) :
    toPath c environment v =
      match c.written v with
      | .error (.issue issue) => .ok (.error issue)
      | .error (.underneath failure) => .error (.underneath failure)
      | .ok path => expand environment path := by
  cases v <;> first | rfl | exact absurd rfl h

theorem toPath_eq_error_iff :
    toPath c environment v = .error u ↔
      v ≠ .null ∧ ((∃ path, c.written v = .ok path ∧ expand environment path = .error u) ∨
        ∃ failure, c.written v = .error (.underneath failure) ∧ u = .underneath failure) := by
  by_cases hv : v = .null
  · subst hv
    simp [toPath]
  · rw [toPath_of_ne_null hv, and_iff_right hv]
    cases c.written v with
    | ok path => simp
    | error unwritten => cases unwritten <;> simp [eq_comm]

theorem toHistoryFile_eq_error_iff :
    toHistoryFile c environment (values.lookup "history_file") = .error u ↔
      HistoryEscapes c environment values u := by
  constructor
  · intro h
    cases hl : values.lookup "history_file" with
    | none =>
      rw [hl] at h
      obtain ⟨rfl, hunknown⟩ := expand_eq_error_iff.mp h
      exact .homeless (.usual hl) hunknown
    | some v =>
      rw [hl] at h
      obtain ⟨hv, ⟨path, hw, he⟩ | ⟨failure, hw, rfl⟩⟩ := toPath_eq_error_iff.mp h
      · obtain ⟨rfl, hunknown⟩ := expand_eq_error_iff.mp he
        exact .homeless (.given hl hv hw) hunknown
      · exact .unwritten hl hv hw
  · intro h
    cases h with
    | homeless given unknown =>
      have he := expand_eq_error_iff.mpr ⟨rfl, unknown⟩
      cases given with
      | given value present written =>
        rw [value]
        exact toPath_eq_error_iff.mpr ⟨present, .inl ⟨_, written, he⟩⟩
      | usual absent =>
        rw [absent]
        exact he
    | unwritten value present fails =>
      rw [value]
      exact toPath_eq_error_iff.mpr ⟨present, .inr ⟨_, fails, rfl⟩⟩

/-- Values fail as such exactly for what they say of the history file. -/
theorem validate_unhandled_iff :
    validate c environment values = .error (.unhandled u) ↔
      HistoryEscapes c environment values u := by
  rw [← toHistoryFile_eq_error_iff]
  unfold validate
  dsimp only
  cases toHistoryFile c environment (values.lookup "history_file") with
  | error failure => simp
  | ok path =>
    dsimp only
    split <;> simp

/-- The setting of the history file is the path that its value, or the one to fall back on, comes
to. -/
theorem historyFile_eq_ok_iff {path : Except Issue (Option String)} (file : Option String)
    (h : toHistoryFile c environment (values.lookup "history_file") = .ok path) :
    setting values "history_file" path.toOption.join (fun _ => path) = .ok file ↔
      path = .ok file := by
  rw [setting_eq_ok_iff, Gives]
  cases hv : values.lookup "history_file" with
  | some v => exact Iff.rfl
  | none =>
    rw [hv] at h
    obtain ⟨found, rfl⟩ := expand_defaultHistoryFile h
    simp [Except.toOption, eq_comm]

/-- Values make the settings that they say, if they say all of them and nothing else. -/
theorem validate_eq_ok_iff :
    validate c environment values = .ok s ↔ Validates c environment values s := by
  have hstrange : ((values.filter fun v => !names.contains v.1).map fun v =>
      Problem.mk v.1 .unknown v.2) = [] ↔ ∀ v ∈ values, v.1 ∈ names := by
    simp
  cases hp : toHistoryFile c environment (values.lookup "history_file") with
  | error failure =>
    rw [validate_unhandled_iff.mpr (toHistoryFile_eq_error_iff.mp hp)]
    constructor
    · intro h
      cases h
    · intro h
      rw [h.historyFile] at hp
      cases hp
  | ok path =>
    have hfile := historyFile_eq_ok_iff s.historyFile hp
    constructor
    · intro h
      unfold validate at h
      rw [hp] at h
      dsimp only at h
      split at h
      · rename_i hprompt hmark hstrict hignore hfile' hlength hknown
        cases h
        exact ⟨setting_eq_ok_iff.mp hprompt, setting_eq_ok_iff.mp hmark,
          setting_eq_ok_iff.mp hstrict, setting_eq_ok_iff.mp hignore,
          hp.trans (congrArg Except.ok (hfile.mp hfile')), setting_eq_ok_iff.mp hlength,
          hstrange.mp hknown⟩
      · cases h
    · intro h
      have hpath := Except.ok.inj (hp.symm.trans h.historyFile)
      unfold validate
      rw [hp]
      dsimp only
      rw [setting_eq_ok_iff.mpr h.prompt, setting_eq_ok_iff.mpr h.commentMark,
        setting_eq_ok_iff.mpr h.strictRedirection, setting_eq_ok_iff.mpr h.ignoreInterrupts,
        hfile.mpr hpath, setting_eq_ok_iff.mpr h.historyLength, hstrange.mpr h.known]

section Added

variable {given : String}

/-- A value given in addition is that of its own setting only. -/
theorem lookup_added (h : name ≠ given) (v : Value) :
    ((given, v) :: values).lookup name = values.lookup name := by
  have hb : (name == given) = false := by simpa using h
  rw [List.lookup_cons, hb]

theorem Gives.added (hg : Gives values name default read a) (h : name ≠ given) (v : Value) :
    Gives ((given, v) :: values) name default read a := by
  rw [Gives, lookup_added h v]
  exact hg

theorem known_added (hk : ∀ v ∈ values, v.1 ∈ names) (h : given ∈ names) (v : Value) :
    ∀ u ∈ (given, v) :: values, u.1 ∈ names := by
  intro u hu
  rcases List.mem_cons.mp hu with rfl | hm
  · exact h
  · exact hk u hm

end Added

theorem toLength_ofNat (lawful : c.Lawful) (n : Nat) : toLength c (.int n) = .ok n := by
  have hn : ¬ (n : Int) < 0 := Int.not_lt.mpr (Int.natCast_nonneg n)
  rw [toLength, lawful.integer]
  dsimp only
  rw [if_neg hn, Int.toNat_natCast]

theorem isMark_iff {mark : String} :
    isMark mark = true ↔ mark ≠ "" ∧ ∀ c ∈ mark.toList, Text.isBlank c = false := by
  simp [isMark]

theorem toMark_text (lawful : c.Lawful) (mark : String) :
    toMark c (.text mark) =
      if isMark mark then .ok (some mark) else .error (.badMark (Text.Literal.ofString mark)) := by
  unfold toMark
  dsimp only
  rw [lawful.text]

theorem isMark_of_toMark {mark : String} (h : toMark c v = .ok (some mark)) :
    isMark mark = true := by
  unfold toMark at h
  split at h
  · cases h
  · split at h
    · cases h
    · split at h
      · cases h
        assumption
      · cases h

/-- Settings that values say are settings that the shell can work with. -/
theorem Validates.valid (h : Validates c environment values s) : s.Valid := by
  intro mark hm
  have hg := h.commentMark
  rw [hm] at hg
  rw [← isMark_iff]
  unfold Gives at hg
  split at hg
  · cases hg
    decide
  · exact isMark_of_toMark hg

end LineShell.Settings

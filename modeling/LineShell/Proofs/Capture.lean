import LineShell.Proofs.Outcome
import LineShell.Proofs.Redirected
import LineShell.Proofs.Text.Recoding

namespace LineShell

open Files (Place Tree)
open Text (uniformNewlines Utf8.encode Utf8.decode Utf8.decodeLossy)

namespace Command

variable {programs : Programs} {files left : Tree} {path : String} {args : List String}
  {status : Int} {out err : List UInt8}

theorem toList_captured (bytes : List UInt8) :
    (captured bytes).toList = uniformNewlines (Utf8.decodeLossy bytes) := String.toList_ofList

theorem not_mem_captured (bytes : List UInt8) : '\r' ∉ (captured bytes).toList := by
  rw [toList_captured]
  exact Text.not_mem_uniformNewlines _

/-- Text without carriage returns is captured as it is. -/
theorem captured_encode {text : List Char} (h : '\r' ∉ text) :
    (captured (Utf8.encode text)).toList = text := by
  rw [toList_captured, Text.Utf8.decodeLossy_of_decode (Text.Utf8.decode_encode text),
    Text.uniformNewlines_of_not_mem h]

theorem encode_captured_iff (bytes : List UInt8) :
    Utf8.encode (captured bytes).toList = bytes ↔
      (∃ text, Utf8.decode bytes = .ok text) ∧ 0x0D ∉ bytes := by
  have hreturn : ∀ s, (0x0D : UInt8) ∈ Utf8.encode s ↔ '\r' ∈ s :=
    fun s => Text.Utf8.mem_encode (c := '\r') (by decide) s
  constructor
  · intro h
    rw [← h]
    refine ⟨⟨_, Text.Utf8.decode_encode _⟩, ?_⟩
    rw [hreturn]
    exact not_mem_captured bytes
  · rintro ⟨⟨text, hd⟩, hr⟩
    have hbytes : Utf8.encode text = bytes := Text.Utf8.encode_of_decode hd
    have hfree : '\r' ∉ text := by
      rwa [← hreturn, hbytes]
    rw [← hbytes, captured_encode hfree]

theorem run_of_ended (hn : ∀ a ∈ path :: args, Files.hasNull a = false)
    (h : programs files (path :: args) = .ended status out err left) :
    run programs files path args = ⟨left, [.spawning (path :: args), .programEnded path status],
      if status = 0 then .ok (captured out) else .error (.failed status (captured err))⟩ := by
  have hfree : (path :: args).any Files.hasNull = false := by
    rw [List.any_eq_false]
    intro a ha
    rw [hn a ha]
    exact Bool.false_ne_true
  unfold run
  dsimp only
  rw [hfree, if_neg Bool.false_ne_true, h]

end Command

namespace Shell

/-- The command of a line is a program that ends well. It prints `out`, and leaves the files as
`left` before its text goes to the target. -/
inductive Prints (sh : Shell) (files : Tree) (line : String) :
    (target : Option String) → (out : List UInt8) → (left : Tree) → Prop where
  | intro {name path : String} {r : Line.Redirection} {out err : List UInt8} {left : Tree}
      (parsed : sh.parsed? line = some (name, r))
      (resolved : Command.resolve files sh.searchPath name = .ok (.external path))
      (passed : ∀ a ∈ path :: r.args, Files.hasNull a = false)
      (ran : sh.programs files (path :: r.args) = .ended 0 out err left) :
      Prints sh files line r.target out left

variable {sh : Shell} {w : World} {files left : Tree} {line : String} {target : Option String}
  {out : List UInt8}

theorem Prints.course_eq (h : sh.Prints files line target out left) :
    sh.course files line = .answered target left (Command.captured out) := by
  obtain ⟨hp, hr, hn, hran⟩ := h
  rw [course_of_parsed hp, commandCourse, hr]
  dsimp only
  rw [Command.run_of_ended hn hran]
  rfl

theorem Prints.view_eq_store {path : String} (h : sh.Prints w.files line (some path) out left) :
    (sh.execute w line).1.view =
      { w.view with files := left }.store path (Command.captured out) := by
  rw [view_execute, h.course_eq]
  rfl

/-- The target of a program gets the program's output as text with uniform line ends. That is the
output as it was exactly if it is well-formed text without carriage returns. -/
theorem printed_kept_iff {path : String} {place : Place} {mode : Nat} {content : List UInt8}
    (h : sh.Prints w.files line (some path) out left)
    (ho : left.target path = .ok (.file place mode content)) :
    let after := (sh.execute w line).1
    (sh.execute w line).2 = .next ∧ after.view.stdout = w.view.stdout ∧
      after.view.errors = w.view.errors ∧
      after.files.read path = .ok (Utf8.encode (uniformNewlines (Utf8.decodeLossy out))) ∧
      (∀ q, q ≠ place → after.files.get? q = left.get? q) ∧
      (after.files.read path = .ok out ↔ (∃ text, Utf8.decode out = .ok text) ∧ 0x0D ∉ out) := by
  intro after
  have hverdict : (sh.execute w line).2 = .next := by
    rw [verdict_execute, h.course_eq]
    rfl
  obtain ⟨hstdout, herrors, hread, -, hothers⟩ := View.of_view_eq_store h.view_eq_store ho
  refine ⟨hverdict, hstdout, herrors, ?_, hothers, ?_⟩
  · rw [hread, Command.toList_captured]
  · rw [hread, ← Command.encode_captured_iff]
    exact ⟨Except.ok.inj, congrArg _⟩

/-- Two lines, the first ended by a carriage return and a line feed. -/
def twoLines : List UInt8 := Utf8.encode "a\r\nb".toList

def printing : Shell := { stock none with programs := fun files _ => .ended 0 twoLines [] files }

theorem prints_twoLines :
    printing.Prints Tree.standard "/bin/sh > out" (some "out") twoLines Tree.standard := by
  have hp : printing.parsed? "/bin/sh > out" = some ("/bin/sh", ⟨some "out", [], []⟩) := by
    decide +kernel
  exact .intro hp rfl (by decide) rfl

theorem target_out : Tree.standard.target "out" =
    .ok (.file ["out", "box", "tmp"] Files.newFileMode []) := rfl

theorem printed_kept_iff_twoLines :
    let after := (printing.execute (World.ofFiles Tree.standard) "/bin/sh > out").1
    printing.Prints Tree.standard "/bin/sh > out" (some "out") twoLines Tree.standard ∧
      after.files.read "out" = .ok (Utf8.encode "a\nb".toList) ∧
      after.files.read "out" ≠ .ok twoLines ∧ after.view.errors = "" := by
  intro after
  obtain ⟨-, -, herrors, hread, -, hkept⟩ := printed_kept_iff
    (w := World.ofFiles Tree.standard) prints_twoLines target_out
  refine ⟨prints_twoLines, ?_, ?_, herrors⟩
  · rw [hread]
    decide +kernel
  · intro h
    exact absurd (hkept.mp h).2 (by decide)

/-- Not all well-formed text gets to the target of a program as it was printed. -/
theorem printed_not_kept :
    ¬ ∀ (sh : Shell) (w : World) (line path : String) (out : List UInt8) (left : Tree),
      sh.Prints w.files line (some path) out left → left.OpensFile path →
      (∃ text, Utf8.decode out = .ok text) → (sh.execute w line).1.files.read path = .ok out := by
  intro hall
  have hread := hall printing (World.ofFiles Tree.standard) _ _ twoLines _ prints_twoLines
    ⟨_, _, _, target_out⟩ ⟨_, Text.Utf8.decode_encode _⟩
  have hview := Prints.view_eq_store (w := World.ofFiles Tree.standard) prints_twoLines
  have hkept := (View.of_view_eq_store hview target_out).2.2.1
  rw [hread] at hkept
  have hfree := ((Command.encode_captured_iff twoLines).mp (Except.ok.inj hkept).symm).2
  exact absurd hfree (by decide)

end Shell

end LineShell

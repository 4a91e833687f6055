import LineShell.Proofs.Capture

namespace LineShell

open Files (Tree)
open Text (Utf8.encode Utf8.decode)

namespace Command

theorem captured_captured (bytes : List UInt8) :
    captured (Utf8.encode (captured bytes).toList) = captured bytes :=
  String.toList_inj.mp (captured_encode (not_mem_captured bytes))

end Command

namespace Shell

variable {sh : Shell} {w : World} {left : Tree} {line path other : String} {out : List UInt8}

theorem Prints.read_target (h : sh.Prints w.files line (some path) out left)
    (ho : left.OpensFile path) :
    (sh.execute w line).1.files.read path = .ok (Utf8.encode (Command.captured out).toList) := by
  obtain ⟨place, mode, content, ht⟩ := ho
  obtain ⟨-, -, hread, -⟩ := View.of_view_eq_store h.view_eq_store ht
  exact hread

/-- Another path name is read as it was after the program, or it leads to the same file. -/
theorem Prints.read_other {before : List UInt8}
    (h : sh.Prints w.files line (some path) out left) (ho : left.OpensFile path)
    (hr : left.read other = .ok before) :
    (sh.execute w line).1.files.read other = .ok before ∨
      (sh.execute w line).1.files.read other =
        .ok (Utf8.encode (Command.captured out).toList) := by
  obtain ⟨place, mode, content, ht⟩ := ho
  obtain ⟨-, -, -, hfiles, -⟩ := View.of_view_eq_store h.view_eq_store ht
  rw [hfiles]
  exact Tree.read_set_cases ht hr _

/-- Captured text is captured as it is, whatever bytes it comes from. So a second program that
prints what the first one left in a file leaves the same in another. -/
theorem captured_again :
    (∀ bytes, '\r' ∉ (Command.captured bytes).toList ∧
      Utf8.decode (Utf8.encode (Command.captured bytes).toList) =
        .ok (Command.captured bytes).toList ∧
      Command.captured (Utf8.encode (Command.captured bytes).toList) = Command.captured bytes) ∧
    ∀ (sh : Shell) (w : World) (first g : String) (out : List UInt8) (left : Tree),
      sh.Prints w.files first (some g) out left → left.OpensFile g →
      ∃ kept, (sh.execute w first).1.files.read g = .ok kept ∧
        ∀ (between : World) (second h : String) (left' : Tree),
          sh.Prints between.files second (some h) kept left' → left'.OpensFile h →
          (sh.execute between second).1.files.read h = .ok kept ∧
          (left'.read g = .ok kept → (sh.execute between second).1.files.read g = .ok kept) := by
  refine ⟨?_, ?_⟩
  · intro bytes
    exact ⟨Command.not_mem_captured bytes, Text.Utf8.decode_encode _,
      Command.captured_captured bytes⟩
  · intro sh w first g out left hfirst hg
    refine ⟨_, hfirst.read_target hg, ?_⟩
    intro between second h left' hsecond hh
    -- the second program prints captured text, which is captured as it is
    have hsame := Command.captured_captured out
    have hread := hsecond.read_target hh
    refine ⟨by rw [hread, hsame], ?_⟩
    intro hkept
    rcases hsecond.read_other hh hkept with hr | hr
    · exact hr
    · rw [hr, hsame]

/-- A line end of two characters, bytes of no character, a surrogate, and a carriage return. -/
def brokenText : List UInt8 := [0x61, 0x0D, 0x0A, 0xFF, 0xED, 0xA0, 0x80, 0x0D]

/-- A shell on a machine where every program prints the file it is given, or broken text if it is
given none. -/
def copying : Shell :=
  { stock none with
    programs := fun files argv =>
      match argv with
      | [_, path] =>
        match files.read path with
        | .ok bytes => .ended 0 bytes [] files
        | .error _ => .ended 1 [] [] files
      | _ => .ended 0 brokenText [] files }

theorem prints_brokenText :
    copying.Prints Tree.standard "/bin/sh > g" (some "g") brokenText Tree.standard := by
  have hp : copying.parsed? "/bin/sh > g" = some ("/bin/sh", ⟨some "g", [], []⟩) := by
    decide +kernel
  exact .intro hp rfl (by decide) rfl

/-- The files after a program has left its text in the file `g`. -/
def copied (kept : List UInt8) : Tree :=
  Tree.standard.set ["g", "box", "tmp"] (.file Files.newFileMode kept)

theorem prints_copied (kept : List UInt8) :
    copying.Prints (copied kept) "/bin/sh g > h" (some "h") kept (copied kept) := by
  have hp : copying.parsed? "/bin/sh g > h" = some ("/bin/sh", ⟨some "h", ["g"], []⟩) := by
    decide +kernel
  exact .intro hp rfl (by decide) rfl

theorem captured_again_brokenText :
    let text := Utf8.encode "a\n\uFFFD\uFFFD\uFFFD\uFFFD\n".toList
    let between := (copying.execute (World.ofFiles Tree.standard) "/bin/sh > g").1
    let after := (copying.execute between "/bin/sh g > h").1
    copying.Prints Tree.standard "/bin/sh > g" (some "g") brokenText Tree.standard ∧
      copying.Prints between.files "/bin/sh g > h" (some "h") text between.files ∧
      after.files.read "g" = .ok text ∧ after.files.read "h" = .ok text := by
  intro text between after
  have hfirst : copying.Prints (World.ofFiles Tree.standard).files "/bin/sh > g" (some "g")
    brokenText Tree.standard := prints_brokenText
  have hg : Tree.standard.target "g" = .ok (.file ["g", "box", "tmp"] Files.newFileMode []) := rfl
  obtain ⟨kept, hkept, hagain⟩ := captured_again.2 _ _ _ _ _ _ hfirst ⟨_, _, _, hg⟩
  obtain ⟨-, -, hread, hfiles, -⟩ := View.of_view_eq_store hfirst.view_eq_store hg
  have htext : Utf8.encode (Command.captured brokenText).toList = text := by decide +kernel
  rw [htext] at hread hfiles
  obtain rfl : text = kept := Except.ok.inj (hread.symm.trans hkept)
  have hcopied : between.files = copied text := hfiles
  have hsecond : copying.Prints between.files "/bin/sh g > h" (some "h") text between.files := by
    rw [hcopied]
    exact prints_copied text
  have hh : between.files.OpensFile "h" := by
    rw [hcopied]
    exact ⟨_, _, _, rfl⟩
  obtain ⟨hsame, hstill⟩ := hagain between _ "h" _ hsecond hh
  exact ⟨prints_brokenText, hsecond, hstill hkept, hsame⟩

end Shell

end LineShell

import LineShell.Proofs.Files.ReadBack
import LineShell.Proofs.Input.Steps
import LineShell.Proofs.Input.Stream

namespace LineShell.Input

open Text

variable (sh : Shell) {w w' : World}

/-- The lines of a script do what the same lines do that are read one by one. -/
theorem runLines_eq_loop (number : Nat) (ls : List (List Char)) (h : w.view = w'.view) :
    (runLines sh number (ls.map String.ofList) w).2 = (loop sh false (lineReadings ls) w').2 ∧
      (runLines sh number (ls.map String.ofList) w).1.view =
        (loop sh false (lineReadings ls) w').1.view := by
  -- the two worlds differ in their logs from the first line on, and only there
  induction ls generalizing number w w' with
  | nil => exact ⟨rfl, h⟩
  | cons l r ih =>
    obtain ⟨hview, hverdict⟩ := numbered_congr sh number h (String.ofList l)
    have hr : lineReadings (l :: r) = .line (String.ofList l) :: lineReadings r := rfl
    rw [List.map_cons, hr, runLines_cons, loop_line, prompted_false, hverdict]
    split
    · exact ih (number + 1) hview
    · exact ⟨rfl, (view_closed number _ _).trans hview⟩

/-- A single line does what it does as a script. -/
theorem runLine_eq_runLines (number : Nat) (l : List Char) (w : World) :
    (runLine sh w (String.ofList l)).2 = (runLines sh number [String.ofList l] w).2 ∧
      (runLine sh w (String.ofList l)).1.view =
        (runLines sh number [String.ofList l] w).1.view := by
  obtain ⟨hview, hverdict⟩ :=
    numbered_congr sh number (rfl : w.view = w.view) (String.ofList l)
  rw [runLine_eq, runLines_cons, hverdict]
  split
  · rename_i hn
    rw [hn]
    exact ⟨rfl, hview.symm⟩
  · exact ⟨rfl, ((view_closed number _ _).trans hview).symm⟩

/-- An empty line does nothing. -/
theorem runLine_nil (w : World) : runLine sh w (String.ofList []) = (w, .status 0) := rfl

/-- A script whose bytes are well formed is run line by line. -/
theorem runScript_eq_runLines {path : String} {bytes : List UInt8} {text : List Char}
    (hr : w.files.read path = .ok bytes) (hd : Utf8.decode bytes = .ok text) :
    runScript sh w path = runLines sh 1 (scriptLines text) w := by
  rw [runScript, hr]
  dsimp only
  rw [hd]

/-- A session that nobody watches is its lines. -/
theorem session_false (readings : List Reading) (w : World) :
    session sh false readings w =
      ⟨(loop sh false readings w).1, (loop sh false readings w).2, none⟩ := rfl

/-- A script and a session agree that have the same lines: the script's text, whatever ends its
lines, comes to the session with line feeds. A single line agrees with both. -/
theorem runScript_eq_session {path : String} {bytes : List UInt8} {text : List Char}
    (hr : w.files.read path = .ok bytes) (hd : Utf8.decode bytes = .ok text) :
    let uniform := uniformNewlines text
    let script := runScript sh w path
    let typed := session sh false (ofBytes (Utf8.encode (withFeeds uniform))) w
    let single := runLine sh w (String.ofList uniform)
    (script.2 = typed.ending ∧ script.1.view = typed.world.view ∧ typed.saving = none) ∧
      ((∀ c ∈ uniform, isLineEnd c = false) →
        single.2 = script.2 ∧ single.1.view = script.1.view) := by
  intro uniform script typed single
  have hscript : script = runLines sh 1 ((lines uniform).map String.ofList) w :=
    runScript_eq_runLines sh hr hd
  have hbytes : ofBytes (Utf8.encode (withFeeds uniform)) = lineReadings (lines uniform) := by
    rw [ofBytes_of_decode (Utf8.decode_encode _),
      uniformNewlines_of_not_mem (not_mem_withFeeds (not_mem_uniformNewlines text)),
      linesAt_withFeeds]
  have htyped : typed = session sh false (lineReadings (lines uniform)) w := by
    rw [← hbytes]
  rw [htyped, hscript, session_false]
  obtain ⟨hending, hview⟩ := runLines_eq_loop sh 1 (lines uniform) (rfl : w.view = w.view)
  refine ⟨⟨hending, hview, rfl⟩, ?_⟩
  intro hends
  rw [lines_of_none hends]
  split
  · rename_i hnil
    have hsingle : single = (w, .status 0) := by
      rw [← runLine_nil sh w, ← hnil]
    rw [hsingle]
    exact ⟨rfl, rfl⟩
  · exact runLine_eq_runLines sh 1 uniform w

/-- Two kinds of line end in a script, and line feeds in a stream. -/
theorem runScript_eq_session_mixed :
    let text := "echo a\r\nexit\u2028nope".toList
    let w := World.ofFiles
      (Files.Tree.standard.set ["s", "box", "tmp"] (.file Files.newFileMode (Utf8.encode text)))
    let script := runScript (Shell.stock none) w "s"
    let typed :=
      session (Shell.stock none) false (ofBytes (Utf8.encode "echo a\nexit\nnope".toList)) w
    w.files.read "s" = .ok (Utf8.encode text) ∧
      script.2 = typed.ending ∧ script.1.view = typed.world.view := by
  intro text w script typed
  have ht : Files.Tree.standard.target "s" =
      .ok (.file ["s", "box", "tmp"] Files.newFileMode []) := rfl
  have hr : w.files.read "s" = .ok (Utf8.encode text) := Files.Tree.read_set ht _
  have hl : withFeeds (uniformNewlines text) = "echo a\nexit\nnope".toList := by decide
  have h := (runScript_eq_session (Shell.stock none) hr (Utf8.decode_encode text)).1
  rw [hl] at h
  exact ⟨hr, h.1, h.2.1⟩

end LineShell.Input

import LineShell.Proofs.Containment
import LineShell.Proofs.Delivery

namespace LineShell

open Files (Place Tree)
open Text (Utf8.encode)

namespace Line

/-- What can stand between blanks. -/
def IsToken (s : String) : Prop := s ≠ "" ∧ ∀ c ∈ s.toList, Text.isBlank c = false

theorem words_append_space (a b : String) : words (a ++ " " ++ b) = words a ++ words b := by
  have hb : Text.isBlank ' ' = true := by decide
  simp only [words, String.toList_append]
  rw [List.append_assoc]
  exact (congrArg (List.map String.ofList) (Text.words_append_cons _ _ ' ' hb)).trans
    List.map_append

theorem words_token {s : String} (h : IsToken s) : words s = [s] := by
  have hne : s.toList ≠ [] := by
    intro he
    exact h.1 (String.toList_eq_nil_iff.mp he)
  simp [words, Text.words, Text.pieces_of_none _ _ h.2, hne]

theorem isToken_of_mem_words {s line : String} (h : s ∈ words line) : IsToken s := by
  obtain ⟨w, hw, rfl⟩ := List.mem_map.mp h
  constructor
  · intro he
    exact Text.ne_nil_of_mem_words hw (String.ofList_eq_empty_iff.mp he)
  · rw [String.toList_ofList]
    exact Text.not_blank_of_mem_words hw

theorem isToken_marker : IsToken marker := by
  refine ⟨by decide, ?_⟩
  intro c hc
  have : c = '>' := by simpa [marker] using hc
  subst this
  decide

/-- The line with a redirection added at its end. -/
def redirected (line path : String) : String := line ++ " " ++ marker ++ " " ++ path

theorem tokens_redirected {mark : Option String} {line path name : String} {args : List String}
    (ht : tokens mark line = name :: args) (hp : IsToken path) :
    tokens mark (redirected line path) = name :: (args ++ [marker, path]) := by
  have hw : words (redirected line path) = words line ++ [marker, path] := by
    rw [redirected, words_append_space, words_append_space, words_token hp,
      words_token isToken_marker]
    simp
  unfold tokens at ht ⊢
  rw [hw]
  cases hl : words line with
  | nil => simp [hl] at ht
  | cons first rest =>
    rw [hl] at ht
    dsimp only [List.cons_append] at ht ⊢
    split
    · rw [if_pos (by assumption)] at ht
      cases ht
    · rw [if_neg (by assumption)] at ht
      cases ht
      rfl

end Line

namespace View

variable {v : View} {path : String} {place : Place} {mode : Nat} {content : List UInt8}

/-- A text kept in a regular file is all that file holds, is not shown, and leaves the other files
alone. -/
theorem of_view_eq_store {w : World} {text : String} (hw : w.view = v.store path text)
    (h : v.files.target path = .ok (.file place mode content)) :
    w.view.stdout = v.stdout ∧ w.view.errors = v.errors ∧
      w.files.read path = .ok (Utf8.encode text.toList) ∧
      w.files = v.files.set place (.file mode (Utf8.encode text.toList)) ∧
      ∀ q, q ≠ place → w.files.get? q = v.files.get? q := by
  rw [store_eq_set h] at hw
  have hf : w.files = v.files.set place (.file mode (Utf8.encode text.toList)) :=
    congrArg View.files hw
  refine ⟨?_, ?_, ?_, hf, ?_⟩
  · rw [hw]
  · rw [hw]
  · rw [hf]
    exact Tree.read_set h _
  · intro q hq
    rw [hf]
    exact Tree.get?_set_of_ne _ _ hq

end View

def Course.succeeded : Course → Bool
  | .answered .. => true
  | _ => false

namespace Shell

variable {sh : Shell} {w : World} {line name path : String} {args : List String} {files : Tree}

theorem course_of_parses {rest : List String} {r : Line.Redirection}
    (ht : Line.tokens sh.settings.commentMark line = name :: rest)
    (h : Line.Parses sh.settings.strictRedirection rest r) :
    sh.course files line = sh.commandCourse files name r.target r.args := by
  rw [course, ht]
  dsimp only
  rw [h.redirection_eq]

theorem course_plain (ht : Line.tokens sh.settings.commentMark line = name :: args)
    (ha : Line.marker ∉ args) :
    sh.course files line = sh.commandCourse files name none args :=
  course_of_parses ht (.plain ha)

theorem course_redirected (ht : Line.tokens sh.settings.commentMark line = name :: args)
    (ha : Line.marker ∉ args) (hp : Line.IsToken path) (hm : path ≠ Line.marker) :
    sh.course files (Line.redirected line path) =
      sh.commandCourse files name (some (Files.Path.normal path)) args :=
  course_of_parses (Line.tokens_redirected ht hp) (.sent ha hm)

/-- Of a line and the same line with a redirection, either both lack a search path, or both go on
to the next line. Then what the one says on standard output or, if its command fails, on standard
error, the other says by the whole content of the target, provided it opens as a regular file once
the command is done. The target is the only file in which they differ. -/
theorem redirected_agrees (w : World)
    (ht : Line.tokens sh.settings.commentMark line = name :: args) (ha : Line.marker ∉ args)
    (hn : name ≠ "exit") (hp : Line.IsToken path) (hm : path ≠ Line.marker) :
    let plain := sh.execute w line
    let sent := sh.execute w (Line.redirected line path)
    (plain.2 = .fatal .pathNotSet ∧ sent.2 = .fatal .pathNotSet ∧
        plain.1.view = w.view ∧ sent.1.view = w.view) ∨
      (plain.2 = .next ∧ sent.2 = .next ∧ ∃ text,
        ((sh.course w.files line).succeeded = true →
          plain.1.view.stdout = w.view.stdout ++ (text ++ "\n") ∧
            plain.1.view.errors = w.view.errors) ∧
        ((sh.course w.files line).succeeded = false →
          plain.1.view.stdout = w.view.stdout ∧
            plain.1.view.errors = w.view.errors ++ (text ++ "\n")) ∧
        ∀ place mode content,
          plain.1.files.target (Files.Path.normal path) = .ok (.file place mode content) →
          sent.1.view.stdout = w.view.stdout ∧ sent.1.view.errors = w.view.errors ∧
            sent.1.files.read (Files.Path.normal path) = .ok (Utf8.encode text.toList) ∧
            sent.1.files = plain.1.files.set place (.file mode (Utf8.encode text.toList)) ∧
            ∀ q, q ≠ place → sent.1.files.get? q = plain.1.files.get? q) := by
  intro plain sent
  have hplain : plain.1.view = (sh.course w.files line).shown w.view := view_execute sh w line
  have hsent : sent.1.view =
      (sh.course w.files (Line.redirected line path)).shown w.view := view_execute sh w _
  have hplain' : plain.2 = (sh.course w.files line).verdict := verdict_execute sh w line
  have hsent' : sent.2 = (sh.course w.files (Line.redirected line path)).verdict :=
    verdict_execute sh w _
  rw [course_redirected ht ha hp hm] at hsent hsent'
  rw [course_plain ht ha] at hplain hplain' ⊢
  -- the command does not know its target, so one case split serves both runs
  rcases commandCourse_cases sh w.files name args with h | h | ⟨files, text, h⟩ | ⟨files, e, h⟩
  · rw [h] at hplain hplain' hsent hsent'
    exact .inl ⟨hplain', hsent', hplain, hsent⟩
  · have he := Command.resolve_eq_exit_iff.mp (commandCourse_eq_exits_iff.mp (h none))
    exact absurd he hn
  · rw [h] at hplain hplain' hsent hsent'
    have hf : plain.1.files = files := congrArg View.files hplain
    rw [hf, hplain, h]
    refine .inr ⟨hplain', hsent', text, fun _ => ⟨rfl, rfl⟩, nofun, ?_⟩
    intro place mode content ho
    exact View.of_view_eq_store (v := { w.view with files := files }) hsent ho
  · rw [h] at hplain hplain' hsent hsent'
    have hf : plain.1.files = files := congrArg View.files hplain
    rw [hf, hplain, h]
    refine .inr ⟨hplain', hsent', e.message, nofun, fun _ => ⟨rfl, rfl⟩, ?_⟩
    intro place mode content ho
    exact View.of_view_eq_store (v := { w.view with files := files }) hsent ho

theorem redirected_echo :
    Line.redirected "echo hello" "out" = "echo hello > out" ∧
      ((stock none).execute (World.ofFiles Tree.standard) "echo hello").1.view =
        ⟨Tree.standard, "hello\n", ""⟩ ∧
      ((stock none).execute (World.ofFiles Tree.standard) "echo hello > out").1.files.read "out" =
        .ok (Utf8.encode "hello".toList) := by
  have hc : (stock none).course Tree.standard "echo hello" =
      .answered none Tree.standard "hello" := by decide +kernel
  have hv : ((stock none).execute (World.ofFiles Tree.standard) "echo hello").1.view =
      ⟨Tree.standard, "" ++ ("hello" ++ "\n"), ""⟩ := by
    rw [view_execute, show (World.ofFiles Tree.standard).files = Tree.standard from rfl, hc]
    rfl
  have hf : ((stock none).execute (World.ofFiles Tree.standard) "echo hello").1.files =
      Tree.standard := congrArg View.files hv
  refine ⟨by decide, hv, ?_⟩
  have ht : Line.tokens (stock none).settings.commentMark "echo hello" = ["echo", "hello"] := by
    decide +kernel
  have hp : Line.IsToken "out" := by
    have h : "out".toList.all (fun c => !Text.isBlank c) = true := by decide
    refine ⟨by decide, ?_⟩
    simpa [List.all_eq_true] using h
  have ho : ((stock none).execute (World.ofFiles Tree.standard) "echo hello").1.files.target
      (Files.Path.normal "out") = .ok (.file ["out", "box", "tmp"] Files.newFileMode []) := by
    rw [hf]
    rfl
  rcases redirected_agrees (World.ofFiles Tree.standard) ht (by decide) (by decide) hp
    (by decide) with ⟨h, -⟩ | ⟨-, -, text, hs, -, hr⟩
  · rw [verdict_execute, show (World.ofFiles Tree.standard).files = Tree.standard from rfl, hc] at h
    cases h
  · have he := (hs (congrArg Course.succeeded hc)).1
    rw [hv] at he
    have ht : "hello" ++ "\n" = text ++ "\n" := by
      simpa [World.view, World.ofFiles, Transcript.stdout] using he
    have hread := (hr _ _ _ ho).2.2.1
    rwa [← (String.append_left_inj "\n").mp ht] at hread

end Shell

end LineShell

import LineShell.Input.History
import LineShell.Proofs.Text.Lines
import Mathlib.Data.List.TakeWhile

namespace LineShell.Input.History

open Files (Tree hasNull)

variable {lines : List (List UInt8)} {line e bytes : List UInt8} {files : Tree} {path : String}

theorem pieces_content (h : ∀ l ∈ lines, lineFeed ∉ l) :
    Text.pieces (· == lineFeed) (content lines) = lines ++ [[]] := by
  induction lines with
  | nil => rfl
  | cons l ls ih =>
    obtain ⟨hl, hls⟩ := List.forall_mem_cons.mp h
    have hnone : ∀ b ∈ l, (b == lineFeed) = false := by
      intro b hb
      rw [beq_eq_false_iff_ne]
      rintro rfl
      exact hl hb
    have hcontent : content (l :: ls) = l ++ lineFeed :: content ls := by
      simp [content]
    have hcut := Text.pieces_append_cons (· == lineFeed) l (content ls) lineFeed
      (beq_self_eq_true _)
    rw [hcontent, hcut, Text.pieces_of_none _ l hnone, ih hls]
    rfl

theorem dropLast_pieces_content (h : ∀ l ∈ lines, lineFeed ∉ l) :
    (Text.pieces (· == lineFeed) (content lines)).dropLast = lines := by
  rw [pieces_content h, List.dropLast_concat]

theorem trim_subset (line : List UInt8) : trim line ⊆ line := by
  unfold trim
  dsimp only
  split
  · exact List.Subset.trans (List.takeWhile_sublist _).subset (List.dropLast_subset _)
  · exact (List.takeWhile_sublist _).subset

/-- No line that is loaded holds a line feed. -/
theorem not_mem_of_mem_entries (h : e ∈ entries bytes) : lineFeed ∉ e := by
  have hall : e ∈ ((Text.pieces (· == lineFeed) bytes).dropLast.map trim).filter
      fun l => !l.isEmpty := by
    unfold entries at h
    dsimp only at h
    split at h
    · exact (List.mem_filter.mp h).1
    · exact h
  obtain ⟨line, hline, rfl⟩ := List.mem_map.mp (List.mem_filter.mp hall).1
  intro hfeed
  have hpiece := Text.not_of_mem_pieces _ _ line (List.dropLast_subset _ hline) lineFeed
    (trim_subset line hfeed)
  simp at hpiece

/-- A line that a history keeps as it is: nothing in it ends it early, and nothing at its end is
left out. -/
structure PlainLine (line : List UInt8) : Prop where
  noFeed : lineFeed ∉ line
  noNull : 0 ∉ line
  noReturn : line.getLast? ≠ some 13

theorem PlainLine.trim_eq (h : PlainLine line) : trim line = line := by
  unfold trim
  rw [if_neg h.noReturn]
  apply List.takeWhile_eq_self_iff.mpr
  intro b hb
  have hne : b ≠ 0 := by
    rintro rfl
    exact h.noNull hb
  simpa using hne

/-- A file of plain lines, unless the first is a time stamp, holds those that are not empty. -/
theorem entries_content (h : ∀ l ∈ lines, PlainLine l) (hs : isStamp (content lines) = false) :
    entries (content lines) = lines.filter fun l => !l.isEmpty := by
  have htrim : lines.map trim = lines :=
    (List.map_congr_left fun l hl => (h l hl).trim_eq).trans (List.map_id _)
  unfold entries
  rw [dropLast_pieces_content fun l hl => (h l hl).noFeed, htrim, hs]
  rfl

/-- The lines that are found in a history file; none if there is no file that can be read. -/
def held (files : Tree) (path : String) : List (List UInt8) :=
  match files.read path with
  | .ok bytes => entries bytes
  | .error _ => []

theorem not_mem_of_mem_held (h : e ∈ held files path) : lineFeed ∉ e := by
  unfold held at h
  split at h
  · exact not_mem_of_mem_entries h
  · cases h

theorem held_of_read (h : files.read path = .ok bytes) : held files path = entries bytes := by
  rw [held, h]

/-- The lines that are loaded are those that are found in the file. -/
theorem load_eq (h : hasNull path = false) :
    (load files path).1 = held files path := by
  unfold load held Files.Tree.read
  rw [h]
  cases files.locate .look path with
  | error fault =>
    dsimp only
    split <;> rfl
  | ok f =>
    cases f with
    | vacant place => rfl
    | node place n =>
      cases n with
      | device kind => cases kind <;> rfl
      | _ => rfl

end LineShell.Input.History

import LineShell.Proofs.Course
import LineShell.Proofs.Files.ReadBack

namespace LineShell

open Files (Place Tree)
open Text (Utf8.encode)

/-- A message has reached its reader: the target holds exactly it, or standard error has grown by
it and a line end. -/
def Delivered (before after : View) (target : Option String) (message : String) : Prop :=
  (∃ path, target = some path ∧ after.files.read path = .ok (Utf8.encode message.toList)) ∨
    after.errors = before.errors ++ (message ++ "\n")

/-- The messages of commands are told from the others by the character they start with. -/
def StartsAsCommandError (message : String) : Prop :=
  message.toList.head? = some 'C' ∨ message.toList.head? = some 'e'

theorem head?_append {a b : String} {c : Char} (h : a.toList.head? = some c) :
    (a ++ b).toList.head? = some c := by
  rw [String.toList_append]
  cases ha : a.toList with
  | nil => simp [ha] at h
  | cons d r => simpa [ha] using h

theorem Shell.message_starts {sh : Shell} {files files' : Tree} {line : String}
    {target : Option String} {e : LineError}
    (h : sh.course files line = .failed target files' e) : StartsAsCommandError e.message := by
  rcases course_failed h with ⟨name, rfl⟩ | ⟨error, rfl⟩
  · exact .inl (head?_append (by simp))
  · exact .inr (head?_append (by simp))

namespace StartsAsCommandError

variable {message : String}

theorem ne_unwritable (h : StartsAsCommandError message) (path : String) (cause : Cause) :
    message ≠ (LineError.unwritable path cause).message := by
  have hc : (LineError.unwritable path cause).message.toList.head? = some 'c' :=
    head?_append (head?_append (head?_append (by simp)))
  rintro rfl
  simp [StartsAsCommandError, hc] at h

theorem encode_ne_nil (h : StartsAsCommandError message) :
    Utf8.encode message.toList ≠ [] := by
  cases hm : message.toList with
  | nil => simp [StartsAsCommandError, hm] at h
  | cons c r =>
    have hc : c = 'C' ∨ c = 'e' := by simpa [StartsAsCommandError, hm] using h
    have he : Utf8.encode (c :: r) = String.utf8EncodeChar c ++ Utf8.encode r := rfl
    rw [he]
    rcases hc with rfl | rfl
    · rw [show String.utf8EncodeChar 'C' = [67] from rfl]
      simp
    · rw [show String.utf8EncodeChar 'e' = [101] from rfl]
      simp

/-- A command's message is never read back from what is no regular file. -/
theorem not_read (h : StartsAsCommandError message) {files : Tree} {path : String}
    (ho : ¬ files.OpensFile path) : files.read path ≠ .ok (Utf8.encode message.toList) := by
  intro hr
  rcases Tree.opensFile_of_read hr with hb | hb
  · exact h.encode_ne_nil hb
  · exact ho hb

end StartsAsCommandError

namespace View

variable {v : View} {path : String}

theorem store_of_write {text : String} {files : Tree}
    (h : v.files.write path (Utf8.encode text.toList) = .ok files) :
    v.store path text = { v with files := files } := by
  rw [store, h]

theorem store_of_error {text : String} {cause : Cause}
    (h : v.files.write path (Utf8.encode text.toList) = .error cause) :
    v.store path text = v.complain (LineError.unwritable path cause).message := by
  rw [store, h]

theorem store_eq_set {place : Place} {mode : Nat} {content : List UInt8}
    (h : v.files.target path = .ok (.file place mode content)) (text : String) :
    v.store path text =
      { v with files := v.files.set place (.file mode (Utf8.encode text.toList)) } :=
  store_of_write (Tree.write_eq_set h _)

/-- A text put into a regular file is what the file holds then. -/
theorem read_store (h : v.files.OpensFile path) (text : String) :
    (v.store path text).files.read path = .ok (Utf8.encode text.toList) := by
  obtain ⟨place, mode, content, ht⟩ := h
  rw [store_eq_set ht]
  exact Tree.read_set ht _

/-- A command's message that is sent to a path name gets there, or nowhere. -/
theorem delivered_store_iff {message : String} (h : StartsAsCommandError message) :
    Delivered v (v.store path message) (some path) message ↔ v.files.OpensFile path := by
  constructor
  · intro hd
    by_cases ho : v.files.OpensFile path
    · exact ho
    exfalso
    rcases Tree.write_of_not_opensFile ho (Utf8.encode message.toList) with hw | ⟨cause, hw⟩
    · rw [store_of_write hw] at hd
      rcases hd with ⟨_, hq, hr⟩ | he
      · cases hq
        exact h.not_read ho hr
      · have hl := congrArg String.length he
        simp [String.length_append] at hl
    · rw [store_of_error hw] at hd
      rcases hd with ⟨_, hq, hr⟩ | he
      · cases hq
        exact h.not_read ho hr
      · have hm : (LineError.unwritable path cause).message = message := by simpa using he
        exact h.ne_unwritable path cause hm.symm
  · intro ho
    exact .inl ⟨path, rfl, read_store ho message⟩

end View

namespace Shell

/-- The error of a line's command is delivered exactly if it has no redirection, or one to a
regular file. If the target cannot be written, the reason for that is shown in its place. -/
theorem error_delivered_iff {sh : Shell} {w : World} {line : String} {target : Option String}
    {files : Tree} {e : LineError} (h : sh.course w.files line = .failed target files e) :
    (Delivered w.view (sh.execute w line).1.view target e.message ↔
      ∀ path, target = some path → files.OpensFile path) ∧
    ∀ path cause, target = some path →
      files.write path (Utf8.encode e.message.toList) = .error cause →
      (sh.execute w line).1.view =
        { w.view with files := files }.complain (LineError.unwritable path cause).message := by
  have hv : (sh.execute w line).1.view =
      { w.view with files := files }.report target e.message := by
    rw [view_execute, h]
    rfl
  rw [hv]
  cases target with
  | none => exact ⟨by simp [Delivered, View.report], by simp⟩
  | some path =>
    constructor
    · have hd : Delivered w.view ({ w.view with files := files }.report (some path) e.message)
          (some path) e.message ↔ files.OpensFile path :=
        View.delivered_store_iff (v := { w.view with files := files }) (message_starts h)
      rw [hd]
      simp
    · intro p cause hp hw
      cases hp
      exact View.store_of_error hw

theorem course_missing_directory :
    (stock (some "bin")).course Tree.standard "nope > d/out" =
      .failed (some "d/out") Tree.standard (.notFound "nope") := by
  decide +kernel

theorem write_missing_directory (bytes : List UInt8) :
    Tree.standard.write "d/out" bytes = .error (.ofFaultAt .noEntry "d/out") := by
  rfl

/-- In a directory that is not there the error is lost. -/
theorem missing_directory_loses_error :
    ¬ Delivered (World.ofFiles Tree.standard).view
      ((stock (some "bin")).execute (World.ofFiles Tree.standard) "nope > d/out").1.view
      (some "d/out") (LineError.notFound "nope").message := by
  have ho : ¬ Tree.standard.OpensFile "d/out" := by
    rintro ⟨place, mode, content, ht⟩
    have hw := write_missing_directory []
    rw [Tree.write_eq_set ht] at hw
    cases hw
  have hs := message_starts course_missing_directory
  rw [view_execute]
  exact fun hd => ho ((View.delivered_store_iff hs).mp hd)

theorem missing_directory_shown :
    (stock (some "bin")).course Tree.standard "nope > d/out" =
        .failed (some "d/out") Tree.standard (.notFound "nope") ∧
      ((stock (some "bin")).execute (World.ofFiles Tree.standard) "nope > d/out").1.view =
        ⟨Tree.standard, "", "cannot write to d/out: No such file or directory\n"⟩ := by
  refine ⟨course_missing_directory, ?_⟩
  have h := (error_delivered_iff (w := World.ofFiles Tree.standard) course_missing_directory).2
    "d/out" _ rfl (write_missing_directory _)
  rw [h]
  decide

end Shell

end LineShell

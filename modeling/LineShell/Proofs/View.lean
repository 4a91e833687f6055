import LineShell.World

namespace LineShell

namespace Transcript

theorem join_map_append (f : Entry → String) (a b : List Entry) :
    String.join ((a ++ b).map f) = String.join (a.map f) ++ String.join (b.map f) := by
  rw [List.map_append, String.join_append]

theorem stdout_append (a b : List Entry) : stdout (a ++ b) = stdout a ++ stdout b :=
  join_map_append _ a b

theorem errors_append (a b : List Entry) : errors (a ++ b) = errors a ++ errors b :=
  join_map_append _ a b

end Transcript

/-- A world as its user sees it, the log aside. -/
structure View where
  files : Files.Tree
  stdout : String
  errors : String
deriving Repr, DecidableEq

def World.view (w : World) : View :=
  ⟨w.files, Transcript.stdout w.transcript, Transcript.errors w.transcript⟩

namespace View

def print (v : View) (text : String) : View := { v with stdout := v.stdout ++ text }

def complain (v : View) (message : String) : View :=
  { v with errors := v.errors ++ (message ++ "\n") }

@[simp] theorem files_print (v : View) (text : String) : (v.print text).files = v.files := rfl

@[simp] theorem stdout_print (v : View) (text : String) :
    (v.print text).stdout = v.stdout ++ text := rfl

@[simp] theorem errors_print (v : View) (text : String) : (v.print text).errors = v.errors := rfl

@[simp] theorem files_complain (v : View) (m : String) : (v.complain m).files = v.files := rfl

@[simp] theorem stdout_complain (v : View) (m : String) : (v.complain m).stdout = v.stdout := rfl

@[simp] theorem errors_complain (v : View) (m : String) :
    (v.complain m).errors = v.errors ++ (m ++ "\n") := rfl

end View

namespace World

@[simp] theorem files_view (w : World) : w.view.files = w.files := rfl

theorem view_add (w : World) (es : List Entry) :
    (w.add es).view = ⟨w.files, w.view.stdout ++ Transcript.stdout es,
      w.view.errors ++ Transcript.errors es⟩ := by
  simp only [view, add, Transcript.stdout_append, Transcript.errors_append]

@[simp] theorem view_note (w : World) (e : Log.Event) : (w.note e).view = w.view := by
  rw [note, view_add]
  simp [view, Transcript.stdout, Transcript.errors]

@[simp] theorem view_print (w : World) (text : String) :
    (w.print text).view = w.view.print text := by
  rw [World.print, view_add]
  simp [View.print, Transcript.stdout, Transcript.errors]

@[simp] theorem view_complain (w : World) (m : String) :
    (w.complain m).view = w.view.complain m := by
  rw [World.complain, view_add]
  simp [View.complain, Transcript.stdout, Transcript.errors]

@[simp] theorem view_with_files (w : World) (files : Files.Tree) :
    { w with files := files }.view = { w.view with files := files } := rfl

end World

end LineShell

import LineShell.Files.Access
import LineShell.Log

namespace LineShell

inductive Entry where
  /-- On standard output. -/
  | output (text : String)
  /-- On standard error. -/
  | error (text : String)
  /-- In the log. -/
  | log (event : Log.Event)
deriving Repr, DecidableEq

/-- The files, and everything that has been shown so far, in order. Assumed of all names and texts
in a world: they are made of whole characters, without the halves of surrogate pairs, and streams
and files hold them in UTF-8. -/
structure World where
  files : Files.Tree
  transcript : List Entry
deriving Repr, DecidableEq

namespace World

def add (w : World) (es : List Entry) : World := { w with transcript := w.transcript ++ es }

def print (w : World) (text : String) : World := w.add [.output text]

def complain (w : World) (message : String) : World := w.add [.error (message ++ "\n")]

def note (w : World) (event : Log.Event) : World := w.add [.log event]

def ofFiles (files : Files.Tree) : World := ⟨files, []⟩

end World

namespace Transcript

def stdout (es : List Entry) : String :=
  String.join (es.map fun | .output text => text | _ => "")

def errors (es : List Entry) : String :=
  String.join (es.map fun | .error text => text | _ => "")

def stderr (style : Log.Style) (es : List Entry) : String :=
  String.join (es.map fun | .error text => text | .log event => style.render event | _ => "")

end Transcript

end LineShell

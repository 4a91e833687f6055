import LineShell.Files.Entry
import LineShell.Shell

namespace LineShell.Input.History

open Files (Tree Fault)

def lineFeed : UInt8 := 10

def isStamp : List UInt8 → Bool
  | a :: b :: _ => a = 35 && 48 ≤ b && b ≤ 57
  | _ => false

def trim (line : List UInt8) : List UInt8 :=
  let line := if line.getLast? = some 13 then line.dropLast else line
  line.takeWhile (· ≠ 0)

/-- The lines of the history that a file holds. A line counts only if a line feed ends it, and empty
lines are not kept. In a file that starts with a time stamp, a hash and a digit, the lines that are
time stamps are not kept either. -/
def entries (content : List UInt8) : List (List UInt8) :=
  let all := ((Text.pieces (· == lineFeed) content).dropLast.map trim).filter (fun l => !l.isEmpty)
  if isStamp content then all.filter (fun l => !isStamp l) else all

def content (entries : List (List UInt8)) : List UInt8 :=
  entries.flatMap fun e => e ++ [lineFeed]

def lastOf (n : Nat) (entries : List (List UInt8)) : List (List UInt8) :=
  entries.drop (entries.length - n)

/-- Loads the history file. A file that is not there is an empty history; any other that cannot be
read is too, with a warning. -/
def load (files : Tree) (path : String) : List (List UInt8) × List Log.Event :=
  match files.locate .look path with
  | .ok (.node _ (.file _ bytes)) => (entries bytes, [])
  | .ok (.node _ .interpreter) => ([], [.historyUnread path (.ofFault .accessDenied)])
  | .ok (.node _ _) => ([], [.historyUnread path (.ofFault .invalidArgument)])
  | .ok (.vacant _) => ([], [])
  | .error fault =>
    if fault = .noEntry then ([], []) else ([], [.historyUnread path (.ofFault fault)])

/-- What is put after the name of a file while its new content is written. -/
def draftSuffix : String := "-00000.tmp"

def historyMode : Nat := 0o600

/-- Replaces the history file: its new content is written beside it, and then takes its place. A
link is not replaced; its target, taken as a path name of its own, is. -/
def replace (files : Tree) (path : String) (lines : List (List UInt8)) : Except Cause Tree :=
  let target := (files.linkTarget? path).getD path
  match files.target (target ++ draftSuffix), files.entry target with
  | .error cause, _ => .error cause
  | .ok _, .error fault => .error (.ofFault fault)
  | .ok _, .ok place =>
    if files.get? place = some .directory then .error (.ofFault .isDirectory)
    else .ok (files.set place (.file historyMode (content lines)))

/-- Writes the history back, and cuts the file to its last `limit` lines if there is a limit. -/
def save (files : Tree) (path : String) (lines : List (List UInt8)) (limit : Option Nat) :
    Tree × List Log.Event :=
  match replace files path lines with
  | .error (.system number words _) => (files, [.historyUnsaved path (.system number words none)])
  | .error cause => (files, [.historyUnsaved path cause])
  | .ok files =>
    match limit, files.read path with
    | some n, .ok bytes =>
      let held := (Text.pieces (· == lineFeed) bytes).dropLast
      if held.length ≤ n then (files, [])
      else match replace files path (lastOf n held) with
        | .ok files => (files, [])
        | .error _ => (files, [])
    | _, _ => (files, [])

def maxLength : Nat := 2147483647

end LineShell.Input.History

import LineShell.Files.Fault
import LineShell.Text.Literal
import LineShell.Text.Utf8

namespace LineShell

open Files (Fault)

inductive Cause where
  /-- The system refused an operation, perhaps on a named file. -/
  | system (number : Int) (words : String) (file : Option String)
  /-- A path or an argument holds the character that ends texts in system calls. -/
  | nullCharacter
  /-- Bytes that should be text are not. -/
  | undecodable (flaw : Text.Utf8.Flaw)
  | other (text : String)
deriving Repr, DecidableEq

namespace Cause

def ofFault (f : Fault) : Cause := .system f.number f.text none

def ofFaultAt (f : Fault) (file : String) : Cause := .system f.number f.text (some file)

def text : Cause → String
  | .system number words none => "[Errno " ++ toString number ++ "] " ++ words
  | .system number words (some file) =>
    "[Errno " ++ toString number ++ "] " ++ words ++ ": " ++ Text.Literal.ofString file
  | .nullCharacter => "embedded null byte"
  | .undecodable flaw => flaw.message
  | .other text => text

def description (c : Cause) : String :=
  match c with
  | .system _ words _ => if words.isEmpty then c.text else words
  | _ => c.text

end Cause

end LineShell

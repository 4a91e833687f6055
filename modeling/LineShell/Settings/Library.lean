import LineShell.Ending
import LineShell.Text.Source
import LineShell.Value

namespace LineShell.Settings

/-- What is wrong with a value: the name of the rule that it breaks, and a message. -/
structure Issue where
  rule : String
  message : String
deriving Repr, DecidableEq

def Issue.ofError (message : String) : Issue := ⟨"value_error", "Value error, " ++ message⟩

structure Problem where
  name : String
  issue : Issue
  value : Value

/-- Why a value has no text: it breaks a rule, or writing it fails in a way that is no rule's. -/
inductive Unwritten where
  | issue (issue : Issue)
  | underneath (failure : Failure)

/-- How values are read as what settings ask for, and written as texts. -/
structure Coercions where
  toText : Value → Except Issue String
  toBool : Value → Except Issue Bool
  toInteger : Value → Except Issue Int
  written : Value → Except Unwritten String

/-- What is assumed of coercions: a value of the kind that is asked for is taken as it is. -/
structure Coercions.Lawful (c : Coercions) : Prop where
  text : ∀ s, c.toText (.text s) = .ok s
  bool : ∀ b, c.toBool (.bool b) = .ok b
  integer : ∀ n, c.toInteger (.int n) = .ok n
  written : ∀ s, c.written (.text s) = .ok s

inductive DocumentFailure where
  /-- It is malformed, for the reason that the text gives. -/
  | malformed (text : String)
  /-- Reading it fails in any other way, as where collections are too deep to be read. -/
  | underneath (failure : Failure)

/-- What makes a value of the text of a document. -/
structure Loader where
  /-- What comes of a text that can be read to its end. -/
  whole : List Char → Except DocumentFailure Value
  /-- What comes of a text that cannot be read to its end; none if more of it is asked for. -/
  part : List Char → Option (Except DocumentFailure Value)

/-- What is assumed of a loader: nothing may follow the document, so it asks for all of a text that
it gives a value for. -/
structure Loader.Lawful (l : Loader) : Prop where
  part_ne_ok : ∀ text v, l.part text ≠ some (.ok v)

/-- What settings files are read and reported with. The shell is built on any such library; what is
assumed of one is said where it is needed. -/
structure Library where
  loader : Loader
  coercions : Coercions
  /-- The text of a list of problems. -/
  report : List Problem → String

end LineShell.Settings

import LineShell.Text.Blank

namespace LineShell.Line

def words (line : String) : List String := (Text.words line.toList).map String.ofList

/-- Whether a token starts with the mark. The empty mark marks nothing. -/
def isMarked (mark : Option String) (token : String) : Bool :=
  match mark with
  | none => false
  | some m => m ≠ "" && m.toList.isPrefixOf token.toList

/-- The tokens of a line; none if the line is blank or a comment. -/
def tokens (mark : Option String) (line : String) : List String :=
  match words line with
  | [] => []
  | first :: rest => if isMarked mark first then [] else first :: rest

/-- Without a comment mark no line is a comment. -/
theorem tokens_none (line : String) : tokens none line = words line := by
  unfold tokens isMarked
  cases words line <;> rfl

end LineShell.Line

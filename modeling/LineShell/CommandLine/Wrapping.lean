namespace LineShell.CommandLine

/-- The words of a text and the single spaces between them, each a chunk of its own. -/
def chunksOf : List Char → List (List Char)
  | [] => []
  | c :: r =>
    if c = ' ' then [c] :: chunksOf r
    else match chunksOf r with
      | (d :: w) :: rest => if d = ' ' then [c] :: (d :: w) :: rest else (c :: d :: w) :: rest
      | rest => [c] :: rest

def fitting (width : Nat) : List (List Char) → List (List Char) × List (List Char)
  | [] => ([], [])
  | w :: r =>
    if w.length ≤ width then
      let (line, rest) := fitting (width - w.length) r
      (w :: line, rest)
    else ([], w :: r)

/-- Lines of a width that chunks are broken into. No line starts or ends with a space, except that
the first may start with one, and a word longer than the width is broken wherever the line is
full. -/
def wrapChunks (width : Nat) : (budget : Nat) → (first : Bool) → List (List Char) →
    List (List Char)
  | 0, _, _ => []
  | _, _, [] => []
  | n + 1, first, w :: r =>
    let chunks := if !first ∧ w = [' '] then r else w :: r
    let (line, rest) := fitting width chunks
    let (line, rest) := match rest with
      | long :: more =>
        if long.length > width then
          let left := width - line.flatten.length
          (line ++ [long.take left], long.drop left :: more)
        else (line, rest)
      | [] => (line, rest)
    let line := if line.getLast?.any fun c => c.all (· = ' ') then line.dropLast else line
    if line.isEmpty then wrapChunks width n first rest
    else line.flatten :: wrapChunks width n false rest

def wrap (width : Nat) (s : String) : List String :=
  (wrapChunks width (2 * s.length + 1) true (chunksOf s.toList)).map String.ofList

end LineShell.CommandLine

import LineShell.Yaml.Form
import LineShell.Yaml.Moment

namespace LineShell.Yaml

inductive Tag where
  | null
  | bool
  | int
  | float
  | binary
  | timestamp
  | orderedPairs
  | pairs
  | set
  | text
  | sequence
  | mapping
  /-- The key whose value is a mapping to be merged into the one around. -/
  | merge
  /-- The key whose value stands for the mapping around. -/
  | content
  | unknown
deriving Repr, DecidableEq

namespace Tag

def commonPart : String := "tag:yaml.org,2002:"

def names : List (String × Tag) :=
  [("null", null), ("bool", bool), ("int", int), ("float", float), ("binary", binary),
    ("timestamp", timestamp), ("omap", orderedPairs), ("pairs", pairs), ("set", set),
    ("str", text), ("seq", sequence), ("map", mapping), ("merge", merge), ("value", content)]

def ofName (name : String) : Tag :=
  let common := commonPart.toList
  if name.toList.take common.length = common then
    (names.lookup (String.ofList (name.toList.drop common.length))).getD unknown
  else unknown

/-- The tag of a plain scalar by its form. One end of a line after the form does not count. -/
def ofPlain (text : List Char) : Tag :=
  let s := if text.getLast? = some '\n' then text.dropLast else text
  if text.isEmpty then null
  else if Form.casings Form.truths s then bool
  else if Form.isFloat s then float
  else if Form.isInteger s then int
  else if s = ['<', '<'] then merge
  else if Form.casings Form.nulls s then null
  else if Stamp.isPlain s then timestamp
  else if s = ['='] then content
  else if s = ['!'] ∨ s = ['&'] ∨ s = ['*'] then unknown
  else .text

/-- The tag of a scalar: a name given, or one found by its form. The name of a single exclamation
mark asks for the form even if the scalar is not plain. -/
def ofScalar (name : Option String) (plain : Bool) (text : List Char) : Tag :=
  match name with
  | none => if plain then ofPlain text else .text
  | some n => if n = "!" then ofPlain text else ofName n

def ofCollection (name : Option String) (usual : Tag) : Tag :=
  match name with
  | none => usual
  | some n => if n = "!" then usual else ofName n

end Tag

end LineShell.Yaml

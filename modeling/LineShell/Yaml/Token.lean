import LineShell.Yaml.Failure

namespace LineShell.Yaml

inductive Directive where
  | version (major : Nat)
  /-- What a handle at the start of a tag stands for. -/
  | handle (name meaning : String)
  | other
deriving Repr, DecidableEq

inductive Token where
  | directive (d : Directive)
  | documentStart
  | documentEnd
  | streamEnd
  | blockSequence
  | blockMapping
  | blockEnd
  | blockEntry
  | flowSequence
  | flowSequenceEnd
  | flowMapping
  | flowMappingEnd
  | flowEntry
  | key
  | value
  | reference (name : String)
  | anchor (name : String)
  | tag (handle : Option String) (suffix : String)
  | scalar (text : List Char) (plain : Bool)
  | broken (failure : Failure)
deriving Repr, DecidableEq

end LineShell.Yaml

import LineShell.Files.Path

namespace LineShell.Files

/-- What a process knows of itself and its machine. -/
structure Environment where
  /-- The variables, with their values. -/
  values : List (String × String)
  /-- The home directory of the account that runs the process, if there is such an account. -/
  own : Option String
  /-- The accounts of the machine, with their home directories. -/
  accounts : List (String × String)

namespace Environment

def ofVariables (values : List (String × String)) : Environment := ⟨values, none, []⟩

def lookup (e : Environment) (name : String) : Option String := e.values.lookup name

/-- The home directory of the process: the variable comes before the account. -/
def home? (e : Environment) : Option String := (e.lookup "HOME").or e.own

end Environment

namespace Path

inductive HomeFault where
  | unknown
  /-- The account's name holds a null character. -/
  | nullCharacter
deriving Repr, DecidableEq

def known : Option String → Except HomeFault String
  | some directory => .ok directory
  | none => .error .unknown

/-- The home directory that a component with a tilde stands for: that of the process, or that of
the account whose name follows the tilde. -/
def home (environment : Environment) (component : String) : Except HomeFault String :=
  if component = "~" then known environment.home?
  else if component.toList.contains '\x00' then .error .nullCharacter
  else known (environment.accounts.lookup (String.ofList (component.toList.drop 1)))

/-- The path name of names below a home directory. One that starts with a tilde itself counts as
unknown. -/
def below (home : String) (names : List String) : Except HomeFault String :=
  let trimmed := (home.toList.reverse.dropWhile (· == '/')).reverse
  if trimmed.head? = some '~' then .error .unknown
  else
    let base := Parts.ofPath (if trimmed.isEmpty then "/" else String.ofList trimmed)
    .ok (Parts.toPath ⟨base.root, base.names ++ names⟩)

/-- The normal form of a path name with its home directory put in. -/
def expandHome (environment : Environment) (path : String) : Except HomeFault String :=
  let parts := Parts.ofPath path
  match parts.root, parts.names with
  | "", first :: rest =>
    if first.toList.head? = some '~' then do
      let directory ← home environment first
      below directory rest
    else .ok parts.toPath
  | _, _ => .ok parts.toPath

end Path

end LineShell.Files

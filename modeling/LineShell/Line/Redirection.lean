import LineShell.Files.Path
import LineShell.Report

namespace LineShell.Line

/-- The token that announces a redirection. -/
def marker : String := ">"

/-- What is left of the tokens once the redirection is taken off. -/
structure Redirection where
  /-- The normal form of the target's path, if there is a redirection. -/
  target : Option String
  /-- The command's arguments. -/
  args : List String
  /-- The tokens after the path. -/
  dropped : List String
deriving Repr, DecidableEq

/-- Takes the redirection off the tokens after the command name. What follows its path is an error
where redirections are strict, and is dropped where they are not. -/
def redirection (strict : Bool) (tokens : List String) : Except RedirectionError Redirection :=
  let args := tokens.takeWhile (· ≠ marker)
  match tokens.dropWhile (· ≠ marker) with
  | [] => .ok ⟨none, args, []⟩
  | _ :: after =>
    if marker ∈ after then .error .repeated
    else match after with
      | [] => .error .missingPath
      | [path] => .ok ⟨some (Files.Path.normal path), args, []⟩
      | path :: first :: others =>
        if strict then .error (.trailing first)
        else .ok ⟨some (Files.Path.normal path), args, first :: others⟩

end LineShell.Line

import LineShell.Posix.Octets

namespace LineShell.Posix.Letters

/-- The options that have been given, with their arguments, and the arguments after them. -/
structure Given where
  options : List (Char × Octets)
  rest : List Octets
deriving Repr, DecidableEq

def Given.has (g : Given) (letter : Char) : Bool := g.options.any (·.1 == letter)

/-- Whether a letter is allowed, and then whether it takes an argument. In `allowed`, a colon
follows those that do. -/
def kind? (letter : Char) : (allowed : Octets) → Option Bool
  | [] => none
  | c :: ':' :: r => if c = letter then some true else kind? letter r
  | c :: r => if c = letter then some false else kind? letter r

def read (allowed : Octets) :
    (budget : Nat) → (cluster : Octets) → List Octets → Except Octets Given
  | 0, _, args => .ok ⟨[], args⟩
  | n + 1, [], args =>
    match args with
    | ['-', '-'] :: rest => .ok ⟨[], rest⟩
    | ('-' :: c :: cluster) :: rest => read allowed n (c :: cluster) rest
    | args => .ok ⟨[], args⟩
  | n + 1, c :: cluster, args =>
    let add (value : Octets) (g : Given) : Given := { g with options := (c, value) :: g.options }
    match kind? c allowed, cluster, args with
    | none, _, _ => .error ("Illegal option -".toList ++ [c])
    | some false, cluster, args => (read allowed n cluster args).map (add [])
    | some true, [], [] => .error ("No arg for -".toList ++ c :: " option".toList)
    | some true, [], value :: args => (read allowed n [] args).map (add value)
    | some true, value, args => (read allowed n [] args).map (add value)

def given (allowed : String) (args : List Octets) : Except Octets Given :=
  read allowed.toList (2 * (args.flatten.length + args.length) + 2) [] args

end LineShell.Posix.Letters

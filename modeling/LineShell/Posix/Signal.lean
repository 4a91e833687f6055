import LineShell.Posix.Octets

namespace LineShell.Posix.Signal

def count : Nat := 65

def names : List (Nat × String) :=
  [(0, "EXIT"), (1, "HUP"), (2, "INT"), (3, "QUIT"), (4, "ILL"), (5, "TRAP"), (6, "ABRT"),
    (7, "BUS"), (8, "FPE"), (9, "KILL"), (10, "USR1"), (11, "SEGV"), (12, "USR2"), (13, "PIPE"),
    (14, "ALRM"), (15, "TERM"), (17, "CHLD"), (18, "CONT"), (19, "STOP"), (20, "TSTP"),
    (21, "TTIN"), (22, "TTOU"), (23, "URG"), (24, "XCPU"), (25, "XFSZ"), (26, "VTALRM"),
    (27, "PROF"), (28, "WINCH"), (29, "IO"), (30, "PWR"), (31, "SYS"), (34, "RTMIN"),
    (64, "RTMAX")]

/-- The name of a number. Those between the first and the last of the free signals are counted from
the nearer of the two; a number without a name is its own. -/
def name (n : Nat) : Octets :=
  match names.lookup n with
  | some name => name.toList
  | none =>
    if 34 < n ∧ n < 50 then "RTMIN+".toList ++ Octets.ofNat (n - 34)
    else if 50 ≤ n ∧ n < 64 then "RTMAX-".toList ++ Octets.ofNat (64 - n)
    else Octets.ofNat n

/-- The number of a signal, from a least one on, by its number or its name in any case. -/
def number? (least : Nat) (s : Octets) : Option Nat :=
  match Octets.natOfDigits? 10 s with
  | some n => if n < count then some n else none
  | none => ((List.range count).drop least).find? fun n => name n == s.map Char.toUpper

def listing : Octets :=
  "0\n".toList ++ (((List.range count).drop 1).map fun n => name n ++ ['\n']).flatten

def descriptions : List (Nat × String) :=
  [(1, "Hangup"), (3, "Quit"), (4, "Illegal instruction"), (5, "Trace/breakpoint trap"),
    (6, "Aborted"), (7, "Bus error"), (8, "Floating point exception"), (9, "Killed"),
    (10, "User defined signal 1"), (11, "Segmentation fault"), (12, "User defined signal 2"),
    (14, "Alarm clock"), (15, "Terminated"), (16, "Stack fault"), (24, "CPU time limit exceeded"),
    (25, "File size limit exceeded"), (26, "Virtual timer expired"),
    (27, "Profiling timer expired"), (29, "I/O possible"), (30, "Power failure"),
    (31, "Bad system call")]

def harmless : List Nat := [0, 17, 18, 23, 28]

end LineShell.Posix.Signal

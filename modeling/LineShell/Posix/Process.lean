import LineShell.Files.Access
import LineShell.Posix.Octets

namespace LineShell.Posix

open Files (Tree Place Node Fault)

/-- What a descriptor reads from or writes to. Several descriptors may stand for one channel, also
those of different processes, and then share its position. -/
inductive Channel where
  | null
  /-- Has no space for a single byte. -/
  | full
  | directory
  | file (place : Place) (position : Nat) (atEnd readable writable : Bool)
  /-- What is left to read of a text. -/
  | text (rest : Octets)
  /-- What has been written to a pipe, the last first, and how much more it takes, if that has an
  end. -/
  | pipe (written : List Octets) (room : Option Nat)
deriving Repr, DecidableEq

inductive Opening where
  | input
  /-- Without what it holds so far. -/
  | output
  /-- For output to a file that is not there yet. -/
  | fresh
  | append
  | inOut
deriving Repr, DecidableEq

structure Process where
  files : Tree
  /-- The accounts of the machine, with their home directories. -/
  accounts : List (String × String)
  channels : Array Channel
  /-- The descriptors that are open, with the numbers of their channels. -/
  descriptors : List (Nat × Nat)
  /-- The permissions that a file is created without. -/
  mask : Nat
  /-- The number that the process goes by. -/
  number : Nat
  /-- The number of the process that started it. -/
  parent : Nat
  /-- Whether it has written more to a pipe than anyone will read. -/
  isBroken : Bool
deriving Repr, DecidableEq

namespace Process

def channel? (p : Process) (descriptor : Nat) : Option Channel :=
  (p.descriptors.lookup descriptor).bind fun n => p.channels[n]?

def addChannel (p : Process) (c : Channel) : Process × Nat :=
  ({ p with channels := p.channels.push c }, p.channels.size)

def close (p : Process) (descriptor : Nat) : Process :=
  { p with descriptors := p.descriptors.filter fun d => d.1 ≠ descriptor }

def connect (p : Process) (descriptor channel : Nat) : Process :=
  { p with descriptors := (descriptor, channel) :: (p.close descriptor).descriptors }

/-- A process after another that it has started: what both share is as the other left it. -/
def resume (p other : Process) : Process :=
  { p with files := { other.files with here := p.files.here }, channels := other.channels }

def piped (p : Process) (room : Option Nat) : Process × Nat :=
  let (p, n) := p.addChannel (.pipe [] room)
  (p.connect 1 n, n)

def pipeText (p : Process) (n : Nat) : Octets :=
  match p.channels[n]? with
  | some (.pipe written _) => written.reverse.flatten
  | _ => []

def isFull (p : Process) (n : Nat) : Bool :=
  match p.channels[n]? with
  | some (.pipe _ (some 0)) => true
  | _ => false

def reconnect (p old : Process) (descriptors : List Nat) : Process :=
  descriptors.foldl (fun p d =>
    match old.descriptors.lookup d with
    | some channel => p.connect d channel
    | none => p.close d) p

def setChannel (p : Process) (n : Nat) (c : Channel) : Process :=
  { p with channels := p.channels.setIfInBounds n c }

def connectNew (p : Process) (descriptor : Nat) (c : Channel) : Process :=
  let (p, n) := p.addChannel c
  p.connect descriptor n

def overwrite (content : List UInt8) (position : Nat) (bytes : List UInt8) : List UInt8 :=
  content.take position ++ List.replicate (position - content.length) 0 ++ bytes ++
    content.drop (position + bytes.length)

def write (p : Process) (descriptor : Nat) (s : Octets) : Process × Bool :=
  if s.isEmpty then (p, true)
  else match p.descriptors.lookup descriptor, p.channel? descriptor with
    | some n, some (.pipe written none) => (p.setChannel n (.pipe (s :: written) none), true)
    | some n, some (.pipe written (some room)) =>
      let taken := s.take room
      ({ p.setChannel n (.pipe (taken :: written) (some (room - taken.length))) with
          isBroken := p.isBroken || taken.length < s.length }, true)
    | some n, some (.file place position atEnd readable true) =>
      match p.files.get? place with
      | some (.file mode content) =>
        let position := if atEnd then content.length else position
        let bytes := Octets.toBytes s
        let files := p.files.set place (.file mode (overwrite content position bytes))
        let after := Channel.file place (position + bytes.length) atEnd readable true
        ({ p.setChannel n after with files := files }, true)
      | _ => (p, true)
    | _, some .null => (p, true)
    | _, _ => (p, false)

def rest? (p : Process) : Channel → Option Octets
  | .null => some []
  | .full => some ['\x00']
  | .text rest => some rest
  | .file place position _ true _ =>
    match p.files.get? place with
    | some (.file _ content) => some (Octets.ofBytes (content.drop position))
    | _ => some []
  | .file _ _ _ false _ | .directory | .pipe .. => none

def unread? (p : Process) (descriptor : Nat) : Option Octets :=
  (p.channel? descriptor).bind p.rest?

def advance (p : Process) (descriptor count : Nat) : Process :=
  match p.descriptors.lookup descriptor, p.channel? descriptor with
  | some n, some (.text rest) =>
    p.setChannel n (.text (rest.drop count))
  | some n, some (.file place position atEnd readable writable) =>
    p.setChannel n (.file place (position + count) atEnd readable writable)
  | _, _ => p

def descriptorPath? (path : Octets) : Option Nat :=
  match String.ofList path with
  | "/dev/stdin" => some 0
  | "/dev/stdout" => some 1
  | "/dev/stderr" => some 2
  | _ =>
    if "/dev/fd/".toList.isPrefixOf path then Octets.natOfDigits? 10 (path.drop 8) else none

def openFile (p : Process) (path : Octets) (opening : Opening) : Except Fault (Process × Nat) :=
  let name := Octets.toText path
  match (descriptorPath? path).map fun d => p.descriptors.lookup d with
  | some (some channel) => .ok (p, channel)
  | some none => .error .noEntry
  | none =>
    if opening = .input then
      match p.files.locate .look name with
      | .error fault => .error fault
      | .ok (.vacant _) => .error .noEntry
      | .ok (.node place (.file ..)) => .ok (p.addChannel (.file place 0 false true false))
      | .ok (.node _ .directory) => .ok (p.addChannel .directory)
      | .ok (.node _ (.device .full)) => .ok (p.addChannel .full)
      | .ok (.node _ _) => .ok (p.addChannel .null)
    else
      match p.files.target name with
      | .error (.system number ..) => .error ⟨number⟩
      | .error _ => .error .noEntry
      | .ok (.device .null) => .ok (p.addChannel .null)
      | .ok (.device .full) => .ok (p.addChannel .full)
      | .ok (.file place mode content) =>
        let isNew := (p.files.get? place).isNone
        if opening = .fresh && !isNew then .error .occupied
        else
          let mode := if isNew then 0o666 &&& (0o777 ^^^ p.mask) else mode
          let kept := if opening = .append || opening = .inOut then content else []
          let opened := { p with files := p.files.set place (.file mode kept) }
          .ok (opened.addChannel (.file place 0 (opening = .append) (opening = .inOut) true))

end Process

end LineShell.Posix

import Lookout.Program.Control
import Lookout.Program.Daemon

set_option autoImplicit false

/-! # The command line

`lookout daemon` runs the daemon until its standard input ends, and any other command is one
of the control program. This is the outer layer: it reads the configuration file, keeps
the service's clock on time and prints lines. It has no network of its own, so a request
finds no connection; a world that has one is an instance of `Backend.Network`.
-/

namespace Lookout.CommandLine

open Config (FileError)
open Program (Report)

/-- A network without any connection. -/
structure Offline where
  deriving Inhabited

instance : Backend.Network Offline := ⟨fun net _ => (.broken, net)⟩

/-- Prints what a program leaves behind. -/
def print (r : Report) : IO UInt32 := do
  for line in r.out do IO.println line
  for line in r.err do IO.eprintln line
  return UInt32.ofNat r.exit

/-- The contents of a file. -/
def contents (path : String) : IO (Except FileError ByteArray) :=
  try
    return .ok (← IO.FS.readBinFile path)
  catch
    | .inappropriateType .. => return .error .isDirectory
    | .invalidArgument .. => return .error .nameTooLong
    | _ => return .error .notFound

/-- Prints the lines of a service's journal that are important enough, and empties it. -/
def printJournal (level : Journal.Level) (s : Service Offline) : IO (Service Offline) := do
  for line in Journal.lines s.fleet.journal do
    if level.rank ≤ line.level.rank then IO.println line.text
  return s.onFleet fun fleet => { fleet with journal := [] }

/-- The time between two looks at the clock, in milliseconds. -/
def pause : UInt32 := 50

/-- Keeps a service on time until a task is done. -/
partial def keep (level : Journal.Level) (ended : Task Unit) (last : Nat) (s : Service Offline) :
    IO Unit := do
  let now ← IO.monoMsNow
  let s ← printJournal level (s.onFleet fun fleet => fleet.advance (now - last))
  unless ← IO.hasFinished ended do
    IO.sleep pause
    keep level ended now s

/-- Waits until the standard input ends. -/
partial def untilEnd (input : IO.FS.Stream) : IO Unit := do
  unless (← input.getLine).isEmpty do untilEnd input

/-- Runs the daemon. -/
def daemon (words : List String) : IO UInt32 := do
  match Program.Daemon.readPath words with
  | .error stop => print (.stopped Program.Daemon.usage stop)
  | .ok path =>
    let file ← contents (path.getD "")
    let started := Program.Daemon.start { contents := fun _ => file } path (default : Offline)
    match started.outcome with
    | .error _ => print started.report
    | .ok s =>
      for line in started.log do IO.println line
      let input ← IO.getStdin
      let ended ← IO.asTask (untilEnd input)
      keep started.level (ended.map fun _ => ()) (← IO.monoMsNow) s
      print { out := started.report.out.drop started.log.length }

/-- Runs the program of a command line. -/
def run : List String → IO UInt32
  | "daemon" :: words => daemon words
  | words => print (Program.Control.run words (default : Offline)).2

end Lookout.CommandLine

/-- The program. -/
def main (words : List String) : IO UInt32 := Lookout.CommandLine.run words

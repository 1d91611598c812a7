/-
What every part of the program shares: the disk, and the journal of what happened.
-/
import Telemetry.Action
import Telemetry.Disk
import Telemetry.Journal

namespace Telemetry

/-- The disk and the events so far, the last one first. -/
structure Host where
  disk : Disk
  journal : List Event

namespace Host

/-- A disk with the home directory and the system's directory for temporary files. -/
def fresh (home : Location) : Host :=
  let disk : Disk := ⟨NameMap.empty.insert "/tmp" .directory, home⟩
  ⟨((disk.makePath home).toOption).getD disk, []⟩

def enter (h : Host) (e : Event) : Host :=
  { h with journal := e :: h.journal }

/-- The events in the order in which they happened. -/
def events (h : Host) : List Event :=
  h.journal.reverse

def log (e : Event) : Action Host Unit :=
  .modify fun h => h.enter e

def look {α : Type} (f : Disk → α) : Action Host α :=
  fun h => (.ok (f h.disk), h)

/-- Changes the disk, or fails and leaves it. -/
def change (f : Disk → Except FileFault Disk) : Action Host Unit :=
  fun h =>
    match f h.disk with
    | .ok d => (.ok (), { h with disk := d })
    | .error fault => (.error (.file fault), h)

end Host

end Telemetry

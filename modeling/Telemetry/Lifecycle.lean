/-
The shutdown flag, which every part of a process watches.

It goes up once, on a signal or when no signal can be waited for, and stays up. Who
watches it sees that it is up and, as long as nobody looked, that it has changed.
-/
import Telemetry.Journal

namespace Telemetry

/-- The flag, and the events so far, the last one first. -/
structure Lifecycle where
  isDown : Bool
  journal : List Event

namespace Lifecycle

def new : Lifecycle :=
  ⟨false, []⟩

def shutdown (l : Lifecycle) : Lifecycle :=
  ⟨true, .shuttingDown :: l.journal⟩

/-- The wait for a signal has ended, and the flag goes up, whatever the outcome. -/
def shutdownOn (l : Lifecycle) : Except FileFault Unit → Lifecycle
  | .ok () => l.shutdown
  | .error fault => { l with journal := .signalsUnavailable fault.message :: l.journal }.shutdown

def receive (l : Lifecycle) (s : Signal) : Lifecycle :=
  { l with journal := .signalReceived s :: l.journal }.shutdown

/-- What a watcher sees: the flag, and whether it has changed since it was down. -/
def seen (l : Lifecycle) : Bool × Bool :=
  (l.isDown, l.isDown)

end Lifecycle

end Telemetry

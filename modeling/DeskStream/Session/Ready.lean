import DeskStream.Session.Step
/-!
# What goes on by itself

An activity waits for its turn, for another activity, or for the world outside. Those that wait for
nothing more can go on; the oldest of them does, so that turns are served in the order in which they
were asked for.
-/

namespace DeskStream.Session

/-- An activity waits neither for its turn nor for the world outside. -/
def isReady (s : Session) : Task → Bool
  | .connect .. | .disconnect _ => !s.isLeaving
  | .join _ link => !s.isListening link
  | .send .. | .close _ => true
  | .queued .. => !s.isWriting
  | .listen _ cancelled => cancelled
  | .dial .. | .write .. | .timer _ => false

/-- How many milliseconds an activity sleeps. -/
def sleep? (s : Session) : Task → Option Nat
  | .timer _ => some s.config.reconnectInterval
  | _ => none

/-- The oldest activity that can go on. -/
def ready? (s : Session) : Option Nat := (s.tasks.find? fun (_, task) => s.isReady task).map (·.1)

end DeskStream.Session

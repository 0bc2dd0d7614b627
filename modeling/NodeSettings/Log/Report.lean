import NodeSettings.Log.Journal
import NodeSettings.Notice

/-!
# Reports

What the library reports while it works goes to the journal: a notice becomes a record of the part
that gave it, at the level of its severity.
-/

namespace NodeSettings

def Severity.level : Severity → Log.Level
  | .debug => Log.Level.debug
  | .info => Log.Level.info
  | .warning => Log.Level.warning
  | .error => Log.Level.error

/-- The record of a notice that was given at a time, in seconds since the start of 1970. -/
def Notice.record (seconds : Int) (n : Notice) : Log.Record where
  name := n.reporter.name
  level := n.severity.level
  message := n.message
  created := seconds

namespace Log.Journal

def linesFor (m : Machine) (j : Journal) (kind : Destination → Bool) (r : Record) : List Text :=
  if j.drops r then []
  else
    (j.handlers.filter fun h => kind h.destination && h.level ≤ r.level).filterMap fun h =>
      (h.written? m r).toOption.join

end Log.Journal

end NodeSettings

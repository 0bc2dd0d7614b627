import NodeSettings.Log.Level
import NodeSettings.Log.Template.Rendering
import NodeSettings.Time.Clock

/-!
# Records

A record of the log has a name, a level, a message and a time. A template shows it by its fields;
the field with the text of the time is there only for a template that mentions it. Two of the fields
are numbers of the machine that the record is made on.
-/

namespace NodeSettings.Log

/-! ### Machines -/

/-- What the lines of a log owe to the machine that they are written on. -/
structure Machine where
  /-- The number of the process. -/
  process : Nat
  /-- The number of the thread that makes the records, which is an address. -/
  thread : Nat
  /-- The length from which on a line cannot be held. -/
  room : Nat
  process_le : process ≤ Template.maxPrecision
  thread_le : thread ≤ Template.maxWidth
  le_room : 0x1000 ≤ room

/-! ### Records -/

structure Record where
  name : Text
  level : Level
  message : Text
  /-- When it was made, in seconds since the start of 1970. -/
  created : Int := 0
  deriving DecidableEq, Repr

namespace Record

open Template (Value Fields)

/-! ### Fields -/

def nothing : Value := .other "None"

/-- The fields of a record that do not depend on a template, where the time of the record is shown
as a value. -/
def fieldsShowing (m : Machine) (created : Value) (r : Record) : Fields :=
  [("name", .text r.name), ("msg", .text r.message), ("args", .other "()"),
   ("levelname", .text (Level.name r.level)), ("levelno", .integer r.level),
   ("pathname", .text []), ("filename", .text []), ("module", .text []), ("exc_info", nothing),
   ("exc_text", nothing), ("stack_info", nothing), ("lineno", .integer 0), ("funcName", nothing),
   ("created", created), ("msecs", .number 0), ("relativeCreated", .number 0),
   ("thread", .integer m.thread), ("threadName", .text "MainThread"),
   ("processName", .text "MainProcess"), ("process", .integer m.process),
   ("message", .text r.message)]

def fields (m : Machine) (r : Record) : Fields := r.fieldsShowing m (.integer r.created)

def withTime (time : Text) (fields : Fields) : Fields :=
  fields ++ [(("asctime" : Text), .text time)]

/-! ### Time -/

def timeMark : Text := "%(asctime)"

def mentionsTime (template : Text) : Bool := Text.holds timeMark template

/-- The fields of a record for a template, unless its time cannot be told. -/
def fieldsFor (m : Machine) (template datePattern : Text) (r : Record) :
    Except Time.Fault Fields :=
  if mentionsTime template then
    (Time.tell datePattern r.created).map fun time => withTime time (r.fields m)
  else .ok (r.fields m)

end Record

end NodeSettings.Log

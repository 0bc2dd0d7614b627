import NodeSettings.Files.Creation
import NodeSettings.Log.Format
import NodeSettings.Log.Sanitize

/-!
# The journal

The journal takes the records of the log to its handlers. It is configured once, stage by stage: the
first configuration that succeeds stays, and one that fails leaves behind what its stages have done
by then, and the journal to be configured afresh. A record below the level of the journal, or with
none at all, is dropped; a handler writes those that reach its own level, each as a line that is
safe on a terminal. A record that cannot be shown is passed over, except that highlighting stops
the log at it.
-/

namespace NodeSettings.Log

/-! ### Handlers -/

inductive Destination where
  | highlightedConsole
  | console
  /-- A file; one that is not below the working directory has no place. -/
  | file (place : Option Place)
  deriving DecidableEq, Repr

def Destination.isConsole : Destination → Bool
  | .highlightedConsole | .console => true
  | .file _ => false

def Destination.isFile : Destination → Bool
  | .file _ => true
  | _ => false

structure Handler where
  destination : Destination
  level : Level
  template : Text
  datePattern : Text
  deriving DecidableEq, Repr

inductive WriteFailure where
  | time (e : Time.Fault)
  | excess (e : Template.Excess)
  deriving DecidableEq, Repr

def WriteFailure.message : WriteFailure → Text
  | .time e => e.message
  | .excess e => e.message

namespace Handler

/-- The line of a record. The template of a handler has been tried with a sample, so that a record
fails by an excess if at all. -/
def line? (m : Machine) (h : Handler) (r : Record) : Except WriteFailure (Option Text) :=
  match r.fieldsFor m h.template h.datePattern with
  | .error e => .error (.time e)
  | .ok fields =>
    match Template.render m.room fields h.template with
    | .ok s => .ok (some (sanitize s ++ [.char '\n']))
    | .error (.excess e) => .error (.excess e)
    | .error _ => .ok none

/-- The line that a handler writes for a record. Highlighting asks for the local time of the record,
and lets through what fails; elsewhere a record that fails has no line. -/
def written? (m : Machine) (h : Handler) (r : Record) : Except WriteFailure (Option Text) :=
  match h.destination with
  | .highlightedConsole => do
    let line ← h.line? m r
    (Time.checkLocal r.created).mapError .time
    return line
  | _ => .ok (h.line? m r).toOption.join

end Handler

/-! ### The journal -/

structure Journal where
  configured : Bool := false
  level : Level := Level.warning
  handlers : List Handler := []
  files : FileTree := {}
  /-- Why no file can be made but below the working directory, if that is so. -/
  outside : Option OpenError := none
  console : Text := []
  deriving DecidableEq, Repr

structure Request where
  /-- The name of the least level; none or an empty one means that of the settings. -/
  level : Option Text := none
  console : Bool := true
  /-- Whether records go to a file; the settings decide where nothing is asked. -/
  file : Option Bool := none
  /-- The path of the file; without one the file lies with the program itself. -/
  path : Option Text := none
  deriving DecidableEq, Repr

inductive ConfigureFailure where
  | level (taken : Level.Taken)
  | format (e : Template.Excess)
  | file (e : OpenError)
  deriving DecidableEq, Repr

def ConfigureFailure.message : ConfigureFailure → Text
  | .level taken => taken.message
  | .format e => e.message
  | .file (.access e) => e.message
  | .file (.badPath flaw) => flaw.message

namespace Request

def levelName (request : Request) (settings : Settings) : Text :=
  match request.level with
  | some name => if name.isEmpty then settings.level else name
  | none => settings.level

def wantsFile (request : Request) (settings : Settings) : Bool :=
  request.file.getD settings.fileOutput

end Request

namespace Settings

def datePattern (settings : Settings) : Text :=
  (if settings.dateFormat.isEmpty then Variable.dateFormat.builtIn else settings.dateFormat)
    ++ (" UTC" : Text)

def consoleDestination (settings : Settings) : Destination :=
  if settings.highlighting then .highlightedConsole else .console

/-- The template of all handlers. -/
def template (m : Machine) (settings : Settings) : Except ConfigureFailure Text :=
  match Format.choose m settings.format with
  | .ok choice => .ok choice.format
  | .error e => .error (.format e)

end Settings

namespace Journal

/-! ### Configuring -/

def addHandler (j : Journal) (settings : Settings) (template : Text)
    (destination : Destination) : Journal :=
  { j with handlers := j.handlers ++ [⟨destination, j.level, template, settings.datePattern⟩] }

/-- The files with the one to write to, and its place. -/
def openFile (j : Journal) (request : Request) :
    Except OpenError (FileTree × Option Place) := do
  let (files, place) ← match request.path with
    | some path => j.files.ensureFile (Path.ofText path)
    | none => .ok (j.files, none)
  match place, j.outside with
  | none, some e => .error e
  | _, _ => .ok (files, place)

def setLevel (j : Journal) (settings : Settings) (request : Request) :
    Journal × Except ConfigureFailure Unit :=
  match Level.ofName (request.levelName settings) with
  | .error taken => (j, .error (.level taken))
  | .ok level => ({ j with level }, .ok ())

/-- Adds the handler of the console, if it is asked for. -/
def addConsole (m : Machine) (j : Journal) (settings : Settings) (request : Request) :
    Journal × Except ConfigureFailure Unit :=
  match settings.template m with
  | .error e => (j, .error e)
  | .ok template =>
    (if request.console then j.addHandler settings template settings.consoleDestination else j,
     .ok ())

/-- Adds the handler of the file, if it is asked for. -/
def addFile (m : Machine) (j : Journal) (settings : Settings) (request : Request) :
    Journal × Except ConfigureFailure Unit :=
  match settings.template m with
  | .error e => (j, .error e)
  | .ok template =>
    if request.wantsFile settings then
      match j.openFile request with
      | .error e => (j, .error (.file e))
      | .ok (files, place) => ({ j with files }.addHandler settings template (.file place), .ok ())
    else (j, .ok ())

/-- The stages of a configuration. -/
inductive Stage where
  | level
  | clear
  | console
  | file
  | finish
  deriving DecidableEq, Repr

def Stage.all : List Stage := [.level, .clear, .console, .file, .finish]

/-- What a stage makes of the journal; a stage that fails leaves it as it was. -/
def stage (m : Machine) (settings : Settings) (request : Request) (j : Journal) :
    Stage → Journal × Except ConfigureFailure Unit
  | .level => j.setLevel settings request
  | .clear => ({ j with handlers := [] }, .ok ())
  | .console => j.addConsole m settings request
  | .file => j.addFile m settings request
  | .finish => ({ j with configured := true }, .ok ())

/-- What stages make of the journal one after the other, up to the first that fails. -/
def attempt (m : Machine) (settings : Settings) (request : Request) (j : Journal) :
    List Stage → Journal × Except ConfigureFailure Unit
  | [] => (j, .ok ())
  | s :: rest =>
    match j.stage m settings request s with
    | (j, .error e) => (j, .error e)
    | (j, .ok ()) => attempt m settings request j rest

/-- Configures the journal, unless it is configured already. -/
def configure (m : Machine) (j : Journal) (settings : Settings) (request : Request) :
    Journal × Except ConfigureFailure Unit :=
  if j.configured then (j, .ok ()) else j.attempt m settings request Stage.all

/-- A journal that is configured stays as it is. -/
theorem configure_of_configured {j : Journal} (h : j.configured) (m : Machine)
    (settings : Settings) (request : Request) : j.configure m settings request = (j, .ok ()) := by
  simp [configure, h]

/-- Configures the journal as the settings say, where a part of the program asks for it. -/
def ensureConfigured (m : Machine) (j : Journal) (settings : Settings) :
    Journal × Except ConfigureFailure Unit :=
  j.configure m settings {}

/-! ### Writing -/

/-- Writes a line to a destination; a line with half a pair in it has no octets and is passed
over. -/
def writeLine (j : Journal) (line : Text) (destination : Destination) : Journal :=
  match Utf8.encode line, destination with
  | some _, .console => { j with console := j.console ++ line }
  | some octets, .file (some place) => { j with files := j.files.add place octets }
  | _, _ => j

def handle (m : Machine) (r : Record) (j : Journal) (h : Handler) : Except WriteFailure Journal :=
  if r.level < h.level then .ok j
  else
    (h.written? m r).map fun
      | some line => j.writeLine line h.destination
      | none => j

def drops (j : Journal) (r : Record) : Bool := r.level ≤ Level.unset || r.level < j.level

def write (m : Machine) (j : Journal) (r : Record) : Except WriteFailure Journal :=
  if j.drops r then .ok j else j.handlers.foldlM (handle m r) j

/-- What the console shows, as far as it is shown without highlighting. -/
def consoleText? (j : Journal) : Option Text :=
  if j.handlers.any fun h => h.destination = .highlightedConsole then none else some j.console

end Journal

end NodeSettings.Log

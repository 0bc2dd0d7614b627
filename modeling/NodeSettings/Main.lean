import Std.Async.DNS
import Std.Time.DateTime.Timestamp
import NodeSettings.Log.Report
import NodeSettings.Startup

/-!
# The command line

Starts a node: reads the environment, the file of variables, the properties file and the clock,
looks up the hosts of the configuration, and writes the lines of the journal. What is read and what
is written is decided elsewhere; here it is only fetched and put down.
-/

namespace NodeSettings.Main

/-! ### Texts -/

/-- A text as the runtime takes it, which knows no halves of pairs. -/
def string? (s : Text) : Option String := (Text.chars? s).map String.ofList

/-- A text as the standard error shows it, with an escape for half a pair. -/
def shown (s : Text) : String :=
  let escaped := s.flatMap fun c => if c.isHalf then Text.codeEscape c else [c]
  (string? escaped).getD ""

/-! ### Files -/

/-- Why a file was not opened or read, by the number of the error. -/
def causeOf (number : UInt32) (words : String) : AccessCause :=
  match number with
  | 2 => .notFound
  | 17 => .exists
  | 20 => .notDirectory
  | 21 => .isDirectory
  | 36 => .nameTooLong
  | _ => .other number.toNat words

def causeOfError : IO.Error → AccessCause
  | .alreadyExists _ number words | .invalidArgument _ number words
  | .permissionDenied _ number words | .resourceExhausted _ number words
  | .inappropriateType _ number words | .noSuchThing _ number words
  | .interrupted _ number words | .noFileOrDirectory _ number words
  | .otherError number words | .resourceBusy number words | .resourceVanished number words
  | .unsupportedOperation number words | .hardwareFault number words
  | .unsatisfiedConstraints number words | .illegalOperation number words
  | .protocolError number words | .timeExpired number words => causeOf number words
  | .unexpectedEof => causeOf 5 "Input/output error"
  | .userError words => causeOf 5 words

def fetch (path : Text) : IO (Except OpenError (List UInt8)) := do
  match PathOctets.encode path, string? path with
  | .error flaw, _ => return .error (.badPath flaw)
  | .ok _, none => return .error (.access ⟨.notFound, path⟩)
  | .ok _, some name =>
    match ← (IO.FS.readBinFile name).toBaseIO with
    | .ok octets => return .ok octets.toList
    | .error e => return .error (.access ⟨causeOfError e, path⟩)

/-- A reader that knows the files that were fetched. -/
def readerOf (fetched : List (Text × Except OpenError (List UInt8))) : FileReader := fun path =>
  (fetched.lookup path).getD (.error (.access ⟨.notFound, path⟩))

/-! ### The machine -/

def firstNumber (s : String) : Nat :=
  let digits := (s.toList.dropWhile (!·.isDigit)).takeWhile Char.isDigit
  (String.ofList digits).toNat?.getD 0

/-- The machine, whose lines have room in its memory. -/
def machine : IO Log.Machine := do
  let process := firstNumber (← IO.FS.readFile "/proc/self/stat")
  let thread := (← IO.getTID).toNat
  let room := 1024 * firstNumber (← IO.FS.readFile "/proc/meminfo")
  if h : process ≤ Log.Template.maxPrecision ∧ thread ≤ Log.Template.maxWidth ∧ 0x1000 ≤ room then
    return ⟨process, thread, room, h.1, h.2.1, h.2.2⟩
  else throw (.userError "no number of the process or no memory")

/-! ### The environment -/

def environmentOf (names : List Text) : IO Environment := do
  let table ← names.filterMapM fun name => do
    match string? name with
    | some s => return (← IO.getEnv s).map fun value => (name, Text.ofString value)
    | none => return none
  return fun name => table.lookup name

def variableNames (document : Text) : List Text :=
  [Location.directoryVariable, Location.homeVariable] ++ Log.Variable.all.map (·.name)
    ++ Log.Settings.namesIn document

/-! ### Hosts -/

def lookUp (host : Text) : IO Address.Answer := do
  match string? host with
  | none => return .failure "half a pair in the name of a host"
  | some name =>
    match ← (Std.Async.DNS.getAddrInfo name "").block.toBaseIO with
    | .ok addresses => return .addresses (addresses.toList.map fun a => Text.ofString a.toString)
    | .error e => return .failure e.toString

/-- A directory in which every host has an address. -/
def anywhere : Address.Directory := fun _ => .addresses [NodeConfig.localIp {}]

/-! ### The run -/

def put (m : Log.Machine) (journal : Log.Journal) (seconds : Int) (n : Notice) : IO Unit := do
  let r := n.record seconds
  for line in (journal.linesFor m Log.Destination.isConsole r).filterMap string? do
    IO.print line
  let lines := (journal.linesFor m Log.Destination.isFile r).filterMap string?
  if !lines.isEmpty then
    let directory := (← IO.appDir) / "logs"
    IO.FS.createDirAll directory
    let file ← IO.FS.Handle.mk (directory / "clusterconf.log") .append
    for line in lines do
      file.putStr line

def run (m : Log.Machine) (journal : Log.Journal) (env : Environment) (arguments : List Text) :
    IO UInt32 := do
  let paths := (Location.locate none none env).toList.map Path.text
  let read := readerOf (← paths.mapM fun path => return (path, ← fetch path))
  let hosts := (start read anywhere env arguments).hosts.eraseDups
  let table ← hosts.mapM fun host => return (host, ← lookUp host)
  let outcome := start read (.ofTable table) env arguments
  let seconds := (← Std.Time.Timestamp.now).toSecondsSinceUnixEpoch.val
  for n in outcome.notices do
    put m journal seconds n
  match outcome.result with
  | .ok status => return status.code.toUInt32
  | .error e =>
    IO.eprintln (shown e.message)
    return 1

end NodeSettings.Main

open NodeSettings in
def main (args : List String) : IO UInt32 := do
  let m ← NodeSettings.Main.machine
  let content ← NodeSettings.Main.fetch Log.Settings.fileName
  let document := match content with
    | .ok octets => (Utf8.decode octets).toOption.getD []
    | .error _ => []
  let env ← NodeSettings.Main.environmentOf (NodeSettings.Main.variableNames document)
  match Log.Settings.load (NodeSettings.Main.readerOf [(Log.Settings.fileName, content)]) env with
  | .error flaw =>
    IO.eprintln (NodeSettings.Main.shown flaw.message)
    return 1
  | .ok settings =>
    match ({} : Log.Journal).ensureConfigured m settings with
    | (journal, .ok ()) => NodeSettings.Main.run m journal env (args.map Text.ofString)
    | (_, .error e) =>
      IO.eprintln (NodeSettings.Main.shown e.message)
      return 1

import NodeSettings.CommandLine.Argument
import NodeSettings.Config.Validation
import NodeSettings.Property.Value

/-!
# Overrides

What a command line overrides. The arguments are read from left to right and the first fault ends
the reading; every port is read where it stands, the seed entries once all arguments are known to
be flags and their values. The last value of a flag counts. Nothing is overridden by a command
line with a fault.
-/

namespace NodeSettings.CommandLine

/-! ### Faults -/

inductive Fault where
  | missingValue (flag : Flag)
  | invalidPort (flag : PortFlag) (raw : Text)
  | oversizedPort (flag : PortFlag) (raw : Text)
  | portOutOfRange (flag : PortFlag) (raw : Text)
  | unrecognized (arguments : List Text)
  | malformedSeed (e : MalformedSeed)
  deriving DecidableEq, Repr

def aboutFlag (flag : Flag) (message : Text) : Text :=
  "argument " ++ flag.text ++ ": " ++ message

def Fault.message : Fault → Text
  | .missingValue flag => aboutFlag flag "expected one argument"
  | .invalidPort flag raw => aboutFlag (.port flag) ("invalid port value: " ++ Text.quoted raw)
  | .oversizedPort flag raw => aboutFlag (.port flag) ("invalid _port value: " ++ Text.quoted raw)
  | .portOutOfRange flag raw =>
    aboutFlag (.port flag) ("port " ++ Text.quoted raw ++ " out of range " ++ Decimal.ofInt minPort
      ++ "-" ++ Decimal.ofInt maxPort)
  | .unrecognized arguments =>
    "unrecognized arguments: " ++ List.intercalate [.char ' '] arguments
  | .malformedSeed e => aboutFlag .seeds e.message

/-! ### Reading -/

def readPort (flag : PortFlag) (raw : Text) : Except Fault Int :=
  match Decimal.parse raw with
  | .error .notInteger => .error (.invalidPort flag raw)
  | .error (.tooManyDigits _) => .error (.oversizedPort flag raw)
  | .ok n => if isPort n then .ok n else .error (.portOutOfRange flag raw)

/-- What the arguments have given so far. -/
structure Given where
  metaPort : Option Int := none
  dataPort : Option Int := none
  clientPort : Option Int := none
  seeds : Option Text := none
  strays : List Text := []
  deriving DecidableEq, Repr

/-- What is given once a port is. -/
def Given.setPort (given : Given) : PortFlag → Int → Given
  | .metaPort, n => { given with metaPort := some n }
  | .dataPort, n => { given with dataPort := some n }
  | .clientPort, n => { given with clientPort := some n }

/-- What is given once a flag has a value. -/
def Given.assign (given : Given) (flag : Flag) (value : Text) : Except Fault Given :=
  match flag with
  | .port p =>
    match readPort p value with
    | .ok n => .ok (given.setPort p n)
    | .error e => .error e
  | .seeds => .ok { given with seeds := some value }

def isValue (argument : Text) : Bool := argument ≠ endOfFlags && classify argument = .value

/-- Reads the arguments after those that have given `given`. -/
def scan (given : Given) : List Text → Except Fault Given
  | [] => .ok given
  | argument :: rest =>
    if argument = endOfFlags then .ok { given with strays := given.strays ++ argument :: rest }
    else
      match classify argument with
      | .value | .unknown => scan { given with strays := given.strays ++ [argument] } rest
      | .flag flag (some value) =>
        match given.assign flag value with
        | .ok given => scan given rest
        | .error e => .error e
      | .flag flag none =>
        match rest with
        | value :: rest =>
          if isValue value then
            match given.assign flag value with
            | .ok given => scan given rest
            | .error e => .error e
          else .error (.missingValue flag)
        | [] => .error (.missingValue flag)

/-! ### Overriding -/

structure Overrides where
  metaPort : Option Int := none
  dataPort : Option Int := none
  clientPort : Option Int := none
  seeds : Option (List Text) := none
  deriving DecidableEq, Repr

def readSeedList : Option Text → Except MalformedSeed (Option (List Text))
  | none => .ok none
  | some list =>
    match Seed.parseList list with
    | .ok entries => .ok (some entries)
    | .error e => .error e

def parse (arguments : List Text) : Except Fault Overrides :=
  match scan {} arguments with
  | .error e => .error e
  | .ok given =>
    if !given.strays.isEmpty then .error (.unrecognized given.strays)
    else
      match readSeedList given.seeds with
      | .error e => .error (.malformedSeed e)
      | .ok seeds => .ok ⟨given.metaPort, given.dataPort, given.clientPort, seeds⟩

def Overrides.apply (overrides : Overrides) (c : NodeConfig) : NodeConfig :=
  { c with
    metaPort := overrides.metaPort.getD c.metaPort
    dataPort := overrides.dataPort.getD c.dataPort
    clientPort := overrides.clientPort.getD c.clientPort
    seeds := overrides.seeds.getD c.seeds }

end NodeSettings.CommandLine

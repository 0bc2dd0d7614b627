import NodeSettings.Property.Basic
import NodeSettings.Text.Word

/-!
# Arguments of the command line

Four flags override the configuration, each with one value that follows it or is attached to it by
an equals sign. An argument that begins with a dash is still a value if it is a dash alone, a
negative number, or text with a space; any other is a flag that is not known.
-/

namespace NodeSettings.CommandLine

/-! ### Flags -/

inductive PortFlag where
  | metaPort
  | dataPort
  | clientPort
  deriving DecidableEq, Repr

inductive Flag where
  | port (flag : PortFlag)
  | seeds
  deriving DecidableEq, Repr

def Flag.all : List Flag := [.port .metaPort, .port .dataPort, .port .clientPort, .seeds]

def Flag.text : Flag → Text
  | .port .metaPort => "--meta_port"
  | .port .dataPort => "--data_port"
  | .port .clientPort => "--client_port"
  | .seeds => "--seed_nodes"

def Flag.ofText? (s : Text) : Option Flag := all.find? fun flag => flag.text = s

/-! ### What an argument is -/

inductive Argument where
  | value
  | flag (flag : Flag) (attached : Option Text)
  | unknown
  deriving DecidableEq, Repr

/-- The flag before the first equals sign and the value after it. -/
def attachedFlag? (s : Text) : Option (Flag × Text) :=
  match s.dropWhile (· ≠ .char '=') with
  | [] => none
  | _ :: value => (Flag.ofText? (s.takeWhile (· ≠ .char '='))).map fun flag => (flag, value)

/-- Whether a text is a row of one or more decimal digits of any script. -/
def isDecimalRow (s : Text) : Bool := !s.isEmpty && s.all Text.isDecimalDigit

def withoutFeed (s : Text) : Text := if s.getLast? = some (.char '\n') then s.dropLast else s

/-- Whether a text after a dash makes a negative number: digits, or digits after a point and
perhaps before it. -/
def isNumber (s : Text) : Bool :=
  let body := withoutFeed s
  isDecimalRow body ||
    match body.dropWhile Text.isDecimalDigit with
    | '.' :: fraction => isDecimalRow fraction
    | _ => false

/-- What an argument is that begins with a dash, where `rest` follows the dash. -/
def classifyDashed (rest : Text) : Argument :=
  match Flag.ofText? ('-' :: rest) with
  | some flag => .flag flag none
  | none =>
    if rest.isEmpty then .value
    else
      match attachedFlag? ('-' :: rest) with
      | some (flag, value) => .flag flag (some value)
      | none => if isNumber rest || rest.contains ' ' then .value else .unknown

def classify : Text → Argument
  | '-' :: rest => classifyDashed rest
  | _ => .value

/-- The argument after which every argument is a value. -/
def endOfFlags : Text := "--"

end NodeSettings.CommandLine

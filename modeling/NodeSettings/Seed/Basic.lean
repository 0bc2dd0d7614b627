import NodeSettings.Text.Quoted

/-!
# Seed entries

A seed entry names a host and the two ports at which it serves: `host:meta:data`. A host that
holds colons stands in brackets. The ports are kept as they were written, so a seed that is
written again carries them unchanged.
-/

namespace NodeSettings

/-- A host with its two ports, each port as the digits it was written with. -/
structure Seed where
  /-- The host, without brackets. -/
  host : Text
  metaPort : Text
  dataPort : Text
  deriving DecidableEq, Repr

namespace Seed

/-! ### Reading -/

/-- The fields of an entry: the colons in brackets separate nothing, and a bracket that opens the
entry is closed by the first closing one, right before a colon. -/
def fields? : Text → Option (List Text)
  | '[' :: rest =>
    match rest.dropWhile (· ≠ .char ']') with
    | _ :: ':' :: ports => some (rest.takeWhile (· ≠ .char ']') :: Text.splitOn ':' ports)
    | _ => none
  | entry => some (Text.splitOn ':' entry)

/-- The seed that an entry describes: three fields, a host and two rows of digits. -/
def parse? (entry : Text) : Option Seed :=
  match fields? entry with
  | some [host, metaPort, dataPort] =>
    if !host.isEmpty && Text.isDigits metaPort && Text.isDigits dataPort then
      some ⟨host, metaPort, dataPort⟩
    else none
  | _ => none

/-! ### Writing -/

def bracketedHost (host : Text) : Text :=
  if host.contains ':' then .char '[' :: host ++ [.char ']'] else host

def entry (seed : Seed) : Text :=
  bracketedHost seed.host ++ .char ':' :: seed.metaPort ++ .char ':' :: seed.dataPort

/-- The same ports at another host. -/
def withHost (seed : Seed) (host : Text) : Seed := { seed with host }

end Seed

structure MalformedSeed where
  entry : Text
  deriving DecidableEq, Repr

def MalformedSeed.message (e : MalformedSeed) : Text :=
  "Bad seed url format: " ++ Text.quoted e.entry ++ " (expected host:meta_port:data_port)"

/-- The seed that an entry describes, or the refusal of the entry. -/
def Seed.parse (entry : Text) : Except MalformedSeed Seed :=
  match Seed.parse? entry with
  | some seed => .ok seed
  | none => .error ⟨entry⟩

end NodeSettings

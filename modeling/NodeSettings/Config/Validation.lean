import NodeSettings.Property.Basic
import NodeSettings.Seed.Basic
import NodeSettings.Text.Decimal

/-!
# Valid configurations

A configuration is valid if its ports are port numbers, it has a replica, no amount is negative,
it has an address and every seed entry describes a seed. What is wrong with a configuration is the
first violation in that order.
-/

namespace NodeSettings

def minPort : Int := 1

def maxPort : Int := 65535

def isPort (n : Int) : Bool := minPort ≤ n && n ≤ maxPort

inductive Violation where
  | portOutOfRange (property : Property) (value : Int)
  | tooFewReplicas (value : Int)
  | negative (property : Property) (value : Int)
  | emptyAddress
  | malformedSeed (e : MalformedSeed)
  deriving DecidableEq, Repr

namespace Violation

def property : Violation → Property
  | .portOutOfRange p _ => p
  | .tooFewReplicas _ => .replicas
  | .negative p _ => p
  | .emptyAddress => .localIp
  | .malformedSeed _ => .seeds

/-- The offending value as a text; an address that is missing has none. -/
def raw : Violation → Text
  | .portOutOfRange _ value => Decimal.ofInt value
  | .tooFewReplicas value => Decimal.ofInt value
  | .negative _ value => Decimal.ofInt value
  | .emptyAddress => []
  | .malformedSeed e => e.entry

def message (v : Violation) : Text :=
  match v with
  | .portOutOfRange p value =>
    p.name ++ " must be within " ++ Decimal.ofInt minPort ++ "-" ++ Decimal.ofInt maxPort
      ++ ", got " ++ Decimal.ofInt value
  | .tooFewReplicas value =>
    Property.replicas.name ++ " must be >= 1, got " ++ Decimal.ofInt value
  | .negative p value => p.name ++ " must be >= 0, got " ++ Decimal.ofInt value
  | .emptyAddress => Property.localIp.name ++ " must not be empty"
  | .malformedSeed e => e.message

end Violation

namespace NodeConfig

/-- The ports of a configuration, in the order in which they are checked. -/
def ports (c : NodeConfig) : List (Property × Int) :=
  [(.metaPort, c.metaPort), (.dataPort, c.dataPort), (.clientPort, c.clientPort)]

/-- The amounts of a configuration, in the order in which they are checked. -/
def amounts (c : NodeConfig) : List (Property × Int) :=
  [(.hot .maxClients, c.hot.maxClients), (.hot .connectionTimeout, c.hot.connectionTimeout),
   (.queryTimeout, c.queryTimeout), (.hot .maxRemovedLogSize, c.hot.maxRemovedLogSize),
   (.maxLogs, c.maxLogs), (.logDeletionInterval, c.logDeletionInterval)]

/-- The violations of a configuration, in the order in which they are checked. -/
def violations (c : NodeConfig) : List Violation :=
  (c.ports.filter fun p => !isPort p.2).map (fun p => .portOutOfRange p.1 p.2)
    ++ (if c.replicas < 1 then [.tooFewReplicas c.replicas] else [])
    ++ (c.amounts.filter fun a => a.2 < 0).map (fun a => .negative a.1 a.2)
    ++ (if c.localIp.isEmpty then [.emptyAddress] else [])
    ++ (c.seeds.filter fun entry => (Seed.parse? entry).isNone).map (fun e => .malformedSeed ⟨e⟩)

def validate (c : NodeConfig) : Except Violation Unit :=
  match c.violations with
  | [] => .ok ()
  | v :: _ => .error v

theorem mem_violations_of_validate {c : NodeConfig} {v : Violation} (h : c.validate = .error v) :
    v ∈ c.violations := by
  unfold validate at h
  split at h
  · cases h
  · rename_i hv
    cases h
    rw [hv]
    exact List.mem_cons_self

theorem malformedSeed_mem_violations {c : NodeConfig} {e : MalformedSeed} :
    .malformedSeed e ∈ c.violations ↔ e.entry ∈ c.seeds ∧ Seed.parse? e.entry = none := by
  obtain ⟨entry⟩ := e
  simp [violations]

end NodeConfig

end NodeSettings

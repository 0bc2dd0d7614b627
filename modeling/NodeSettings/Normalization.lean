import NodeSettings.Address.Literal
import NodeSettings.Address.Lookup
import NodeSettings.Config.Basic
import NodeSettings.Seed.Basic

/-!
# Normalizing addresses

The members of a cluster compare each other by address, so the address of the node and the host of
every seed are replaced by literal addresses. All of them are found before any is replaced; the
first that is not found leaves the configuration as it was. Entries with a literal host stay as
they are written.
-/

namespace NodeSettings.Normalization

open Address

inductive Failure where
  | malformedSeed (e : MalformedSeed)
  | unresolved (e : Unresolved)
  deriving DecidableEq, Repr

def Failure.message : Failure → Text
  | .malformedSeed e => e.message
  | .unresolved e => e.message

def address (directory : Directory) (host : Text) : Asking Failure Text :=
  if isLiteral host then .ofExcept (.ok host)
  else
    match resolve directory host with
    | .ok address => ⟨.ok address, [host]⟩
    | .error e => ⟨.error (.unresolved e), [host]⟩

def entry (directory : Directory) (entry : Text) : Asking Failure Text :=
  match Seed.parse? entry with
  | none => .ofExcept (.error (.malformedSeed ⟨entry⟩))
  | some seed =>
    if isLiteral seed.host then .ofExcept (.ok entry)
    else
      (address directory seed.host).andThen fun host => .ofExcept (.ok (seed.withHost host).entry)

/-- Seed entries with literal hosts, in order. -/
def entries (directory : Directory) : List Text → Asking Failure (List Text)
  | [] => .ofExcept (.ok [])
  | e :: rest =>
    (entry directory e).andThen fun e =>
      (entries directory rest).andThen fun rest => .ofExcept (.ok (e :: rest))

/-- The literal address of the node and the seed entries with literal hosts. -/
def literals (directory : Directory) (c : NodeConfig) : Asking Failure (Text × List Text) :=
  (address directory c.localIp).andThen fun localIp =>
    (entries directory c.seeds).andThen fun seeds => .ofExcept (.ok (localIp, seeds))

/-- The configuration with its addresses replaced, once all of them are found. -/
def run (directory : Directory) (c : NodeConfig) : NodeConfig × Asking Failure Unit :=
  let asked := literals directory c
  match asked.result with
  | .error e => (c, ⟨.error e, asked.hosts⟩)
  | .ok (localIp, seeds) => ({ c with localIp, seeds }, ⟨.ok (), asked.hosts⟩)

end NodeSettings.Normalization

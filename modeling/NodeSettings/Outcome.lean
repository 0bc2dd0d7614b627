import NodeSettings.Notice

/-!
# Outcomes

An operation of the library yields a result or a failure, the notices that it gave on the way, and
the hosts that it looked up. The notices and the hosts are there in either case, and so is the
configuration that an operation leaves behind, which stands beside its outcome.
-/

namespace NodeSettings

/-- The result of an operation with what it reported and asked for. -/
structure Outcome (ε α : Type) where
  result : Except ε α
  notices : List Notice := []
  hosts : List Text := []

namespace Outcome

def map {ε α β : Type} (f : α → β) (o : Outcome ε α) : Outcome ε β :=
  ⟨o.result.map f, o.notices, o.hosts⟩

def mapError {ε ε' α : Type} (f : ε → ε') (o : Outcome ε α) : Outcome ε' α :=
  ⟨o.result.mapError f, o.notices, o.hosts⟩

def after {ε α : Type} (o : Outcome ε α) (notices : List Notice) : Outcome ε α :=
  ⟨o.result, notices ++ o.notices, o.hosts⟩

end Outcome

/-! ### Operations on a configuration -/

def override (arguments : List Text) (c : NodeConfig) :
    NodeConfig × Outcome CommandLine.Fault Unit :=
  match CommandLine.parse arguments with
  | .error fault => (c, ⟨.error fault, [.overridesRefused fault arguments], []⟩)
  | .ok overrides =>
    (overrides.apply c,
     ⟨.ok (),
      (overrides.metaPort.map (Notice.portOverridden .metaPort)).toList
        ++ (overrides.dataPort.map (Notice.portOverridden .dataPort)).toList
        ++ (overrides.clientPort.map (Notice.portOverridden .clientPort)).toList
        ++ (overrides.seeds.map Notice.seedsOverridden).toList, []⟩)

def normalize (directory : Address.Directory) (c : NodeConfig) :
    NodeConfig × Outcome Normalization.Failure Unit :=
  let (c, asked) := Normalization.run directory c
  match asked.result with
  | .error e => (c, ⟨.error e, [], asked.hosts⟩)
  | .ok () => (c, ⟨.ok (), [.normalized c.localIp c.seeds], asked.hosts⟩)

end NodeSettings

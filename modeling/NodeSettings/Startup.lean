import NodeSettings.Outcome

/-!
# Starting a node

A configuration is made of three layers: the built-in values, the properties file and the command
line. A properties file that is not opened leaves the built-in values; one that is opened must be
without fault. A command line with a fault is passed over.
-/

namespace NodeSettings

/-! ### Reading the configuration -/

inductive LoadFailure where
  | refused (e : ConfigError)
  | tooManyDigits (count : Nat)
  | badPath (flaw : PathFlaw)
  deriving DecidableEq, Repr

def LoadFailure.message : LoadFailure → Text
  | .refused e => e.message
  | .tooManyDigits count => Decimal.tooManyDigitsMessage count
  | .badPath flaw => flaw.message

def LoadFailure.ofOverlay : Overlay.Failure → LoadFailure
  | .rejected p raw why => .refused (.rejected p raw why)
  | .tooManyDigits count => .tooManyDigits count

def applyProperties (bindings : Bindings) (c : NodeConfig) :
    NodeConfig × Except LoadFailure Unit :=
  let (c, result) := Overlay.apply bindings c
  (c, result.mapError .ofOverlay)

def checkValid (c : NodeConfig) : Except LoadFailure Unit :=
  c.validate.mapError fun v => .refused (.invalid v)

/-- The configuration that bindings make of the built-in values. -/
def configure (bindings : Bindings) : Except LoadFailure NodeConfig :=
  let (c, result) := applyProperties bindings {}
  match result with
  | .error e => .error e
  | .ok () => (checkValid c).map fun () => c

/-- Finds the properties file, and tells if no directory is known. -/
def findLocation (configDirectory homeDirectory : Option Text) (env : Environment) :
    Option Path × List Notice :=
  let location := Location.locate configDirectory homeDirectory env
  (location, if location.isNone then [.noLocation] else [])

def loadFile (read : FileReader) (path : Text) : Outcome LoadFailure NodeConfig :=
  match readProperties read path with
  | .error (.unopened (.access e)) => ⟨.ok {}, [.reading path, .notOpened path e], []⟩
  | .error (.unopened (.badPath flaw)) => ⟨.error (.badPath flaw), [.reading path], []⟩
  | .error (.refused flaw) => ⟨.error (.refused (.refused path flaw)), [.reading path], []⟩
  | .ok bindings => ⟨configure bindings, [.reading path], []⟩

/-- Reads the configuration; without a location it is made of the built-in values. -/
def load (read : FileReader) : Option Path → Outcome LoadFailure NodeConfig
  | none => ⟨.ok {}, [], []⟩
  | some path => loadFile read path.text

/-! ### All layers -/

/-- Overrides a configuration by a command line, and passes over a command line with a fault. -/
def overrideOrKeep (ignored : Notice) (arguments : List Text) (c : NodeConfig) :
    NodeConfig × List Notice :=
  let (c, o) := override arguments c
  match o.result with
  | .ok () => (c, o.notices)
  | .error _ => (c, o.notices ++ [ignored])

/-- The configuration of all layers, where a configuration directory may be given. -/
def loadConfig (read : FileReader) (configDirectory : Option Text) (env : Environment)
    (arguments : List Text) : Outcome LoadFailure NodeConfig :=
  let (location, notices) := findLocation configDirectory none env
  let loaded := (load read location).after notices
  match loaded.result with
  | .error e => ⟨.error e, loaded.notices, []⟩
  | .ok c =>
    if arguments.isEmpty then loaded
    else
      let (c, more) := overrideOrKeep .overridesIgnored arguments c
      ⟨.ok c, loaded.notices ++ more, []⟩

/-! ### The node -/

inductive ExitStatus where
  | started
  | refused
  deriving DecidableEq, Repr

def ExitStatus.code : ExitStatus → Nat
  | .started => 0
  | .refused => 1

def announce (directory : Address.Directory) (c : NodeConfig) : Outcome LoadFailure ExitStatus :=
  let (c, o) := normalize directory c
  match o.result with
  | .error e => ⟨.ok .refused, o.notices ++ [.notNormalized e], o.hosts⟩
  | .ok () => ⟨.ok .started, o.notices ++ [.resolved c], o.hosts⟩

/-- Starts a node: reads the configuration, overrides it, normalizes its addresses and reports it.
A configuration that is refused ends the start in order; a number that is not read and a path with
which nothing can be asked for break it off. -/
def start (read : FileReader) (directory : Address.Directory) (env : Environment)
    (arguments : List Text) : Outcome LoadFailure ExitStatus :=
  let (location, notices) := findLocation none none env
  let loaded := (load read location).after notices
  match loaded.result with
  | .error (.refused e) => ⟨.ok .refused, loaded.notices ++ [.configRefused e], []⟩
  | .error e => ⟨.error e, loaded.notices, []⟩
  | .ok c =>
    let (c, more) := overrideOrKeep .overridesSkipped arguments c
    (announce directory c).after (loaded.notices ++ more)

end NodeSettings

import NodeSettings.Files.Tree
import NodeSettings.Reload
import NodeSettings.Startup

/-!
# Sessions

A session is the life of one configuration among the files and the variables that it is made from.
Each step acts on the session and answers, whether it fails or not, and the session goes on with
the configuration that the step leaves behind.
-/

namespace NodeSettings

/-- A configuration with what surrounds it. -/
structure Session where
  config : NodeConfig := {}
  location : Option Path := none
  /-- Settings of a running node that were set aside. -/
  held : Option HotSettings := none
  files : FileTree := {}
  environment : Environment := fun _ => none

namespace Session

/-! ### Steps -/

inductive Step where
  | begin (c : NodeConfig)
  /-- Sets a field without a check. -/
  | assign (a : Assignment)
  | get (p : Property)
  | getHot
  /-- Appends a seed entry without a check. -/
  | appendSeed (entry : Text)
  | updateHot (changes : List (HotField × Int))
  | holdHot
  | heldHot
  | validate
  | applyProperties (bindings : Bindings)
  | applyHot (bindings : Bindings)
  | override (arguments : List Text)
  | normalize (directory : Address.Directory)
  | write (path : Text) (node : FileNode)
  | remove (path : Text)
  | setVariable (name : Text) (value : Option Text)
  /-- Finds the properties file, among the given variables or those of the process. -/
  | locate (configDirectory homeDirectory : Option Text) (given : Option Environment)
  | load
  | loadConfig (configDirectory : Option Text) (arguments : List Text)
  | readProperties (path : Text)
  | reload (path : Option Text)
  | reloadLocated

inductive Reply where
  | done
  | valid
  | field (a : Assignment)
  | hot (settings : Option HotSettings)
  | location (path : Option Path)
  | bindings (bindings : Bindings)

inductive Failure where
  | invalid (v : Violation)
  | load (e : LoadFailure)
  | reload (e : ReloadFailure)
  | override (fault : CommandLine.Fault)
  | normalize (e : Normalization.Failure)
  | read (path : Text) (e : ReadFailure)
  | remove (e : OpenError)

/-! ### Running -/

/-- The session with the configuration that an operation leaves behind, and the answer to its
outcome. -/
def settle {ε α : Type} (session : Session) (failure : ε → Failure) (reply : α → Reply)
    (ended : NodeConfig × Outcome ε α) : Session × Outcome Failure Reply :=
  ({ session with config := ended.1 }, (ended.2.map reply).mapError failure)

section
variable {ε α : Type} {failure : ε → Failure} {reply : α → Reply}
  {ended : NodeConfig × Outcome ε α}

theorem settle_of_ok {a : α} (session : Session) (h : ended.2.result = .ok a) :
    session.settle failure reply ended
      = ({ session with config := ended.1 },
         ⟨.ok (reply a), ended.2.notices, ended.2.hosts⟩) := by
  simp only [settle, Outcome.map, Outcome.mapError, h]
  rfl

theorem settle_of_error {e : ε} (session : Session) (h : ended.2.result = .error e) :
    session.settle failure reply ended
      = ({ session with config := ended.1 },
         ⟨.error (failure e), ended.2.notices, ended.2.hosts⟩) := by
  simp only [settle, Outcome.map, Outcome.mapError, h]
  rfl

end

/-- The session with a configuration that was read, if one was. -/
def adopt (session : Session) (o : Outcome LoadFailure NodeConfig) :
    Session × Outcome Failure Reply :=
  match o.result with
  | .ok c => ({ session with config := c }, ⟨.ok .done, o.notices, o.hosts⟩)
  | .error e => (session, ⟨.error (.load e), o.notices, o.hosts⟩)

/-- The answer of a step that gives no notice and looks nothing up. -/
def quiet (session : Session) (result : Except Failure Reply) : Session × Outcome Failure Reply :=
  (session, ⟨result, [], []⟩)

def setVariable (environment : Environment) (name : Text) (value : Option Text) : Environment :=
  fun other => if other = name then value else environment other

def reloadFrom (session : Session) (path : Option Text) : Session × Outcome Failure Reply :=
  session.settle .reload .hot (NodeSettings.reload session.files.read path session.config)

def step (session : Session) : Step → Session × Outcome Failure Reply
  | .begin c => quiet { session with config := c } (.ok .done)
  | .assign a => quiet { session with config := a.apply session.config } (.ok .done)
  | .get p => quiet session (.ok (.field ⟨p, p.get session.config⟩))
  | .getHot => quiet session (.ok (.hot (some session.config.hot)))
  | .appendSeed entry =>
    let c := session.config
    quiet { session with config := { c with seeds := c.seeds ++ [entry] } } (.ok .done)
  | .updateHot changes =>
    let c := session.config
    let hot := c.hot.update changes
    quiet { session with config := { c with hot } } (.ok (.hot (some hot)))
  | .holdHot => quiet { session with held := some session.config.hot } (.ok .done)
  | .heldHot => quiet session (.ok (.hot session.held))
  | .validate =>
    match session.config.validate with
    | .ok () => quiet session (.ok .valid)
    | .error v => quiet session (.error (.invalid v))
  | .applyProperties bindings =>
    let (c, result) := NodeSettings.applyProperties bindings session.config
    session.settle .load (fun () => .done) (c, ⟨result, [], []⟩)
  | .applyHot bindings =>
    session.settle .reload (.hot ∘ some) (NodeSettings.applyHot bindings session.config)
  | .override arguments =>
    session.settle .override (fun () => .done) (NodeSettings.override arguments session.config)
  | .normalize directory =>
    session.settle .normalize (fun () => .done) (NodeSettings.normalize directory session.config)
  | .write path node => quiet { session with files := session.files.write path node } (.ok .done)
  | .remove path =>
    match session.files.remove path with
    | .ok files => quiet { session with files } (.ok .done)
    | .error e => quiet session (.error (.remove e))
  | .setVariable name value =>
    quiet { session with environment := setVariable session.environment name value } (.ok .done)
  | .locate configDirectory homeDirectory given =>
    let (location, notices) :=
      findLocation configDirectory homeDirectory (given.getD session.environment)
    ({ session with location }, ⟨.ok (.location location), notices, []⟩)
  | .load =>
    session.adopt (NodeSettings.load session.files.read session.location)
  | .loadConfig configDirectory arguments =>
    session.adopt
      (NodeSettings.loadConfig session.files.read configDirectory session.environment arguments)
  | .readProperties path =>
    match NodeSettings.readProperties session.files.read path with
    | .ok bindings => quiet session (.ok (.bindings bindings))
    | .error e => quiet session (.error (.read path e))
  | .reload path => session.reloadFrom path
  | .reloadLocated => session.reloadFrom (session.location.map Path.text)

/-- The outcomes of steps, each with the configuration after it. -/
def run (session : Session) : List Step → List (Outcome Failure Reply × NodeConfig)
  | [] => []
  | s :: rest => ((session.step s).2, (session.step s).1.config) :: run (session.step s).1 rest

end Session

end NodeSettings

import NodeSettings.Outcome

/-!
# Reloading settings

While a node runs, its properties file may be read again. Only the three settings of a running
node are taken from it, all of them at once: a single fault leaves every setting as it was, and a
setting whose key is absent keeps its value.
-/

namespace NodeSettings

/-! ### Failures -/

inductive ReloadError where
  | notOpened (path : Text) (e : AccessError)
  | refused (path : Text) (flaw : ContentFlaw)
  | rejected (field : HotField) (raw : Text) (why : Rejection)
  | negative (field : HotField) (raw : Text)
  deriving DecidableEq, Repr

def unreadableMessage (path reason : Text) : Text :=
  "Fail to reload config file " ++ path ++ " because " ++ reason

def ReloadError.message : ReloadError → Text
  | .notOpened path e => unreadableMessage path e.message
  | .refused path flaw => unreadableMessage path (flaw.message path)
  | .rejected field raw why => "Fail to reload config: " ++ why.message field.key raw
  | .negative field raw =>
    "Fail to reload config: " ++ field.key ++ " must be >= 0, got " ++ Text.quoted raw

inductive ReloadFailure where
  | refused (e : ReloadError)
  | tooManyDigits (count : Nat)
  | badPath (flaw : PathFlaw)
  deriving DecidableEq, Repr

def ReloadFailure.message : ReloadFailure → Text
  | .refused e => e.message
  | .tooManyDigits count => Decimal.tooManyDigitsMessage count
  | .badPath flaw => flaw.message

/-! ### Settings in bindings -/

def HotField.read (field : HotField) (raw : Text) : Except ReloadFailure Int :=
  match readInteger raw with
  | .error (.rejected why) => .error (.refused (.rejected field raw why))
  | .error (.tooManyDigits count) => .error (.tooManyDigits count)
  | .ok n => if n < 0 then .error (.refused (.negative field raw)) else .ok n

/-- The changes that bindings make to the given settings, in their order. -/
def hotChanges (bindings : Bindings) :
    List HotField → Except ReloadFailure (List (HotField × Int))
  | [] => .ok []
  | field :: rest =>
    match bindings.get? field.key with
    | none => hotChanges bindings rest
    | some raw =>
      match field.read raw with
      | .error e => .error e
      | .ok n =>
        match hotChanges bindings rest with
        | .error e => .error e
        | .ok changes => .ok ((field, n) :: changes)

/-! ### Reloading -/

/-- Replaces the settings that the bindings set, and gives all three as they are then. -/
def applyHot (bindings : Bindings) (c : NodeConfig) :
    NodeConfig × Outcome ReloadFailure HotSettings :=
  match hotChanges bindings HotField.all with
  | .error e => (c, ⟨.error e, [], []⟩)
  | .ok changes =>
    let hot := c.hot.update changes
    ({ c with hot }, ⟨.ok hot, [.settingsReplaced changes], []⟩)

def ReloadFailure.ofRead (path : Text) : ReadFailure → ReloadFailure
  | .unopened (.access e) => .refused (.notOpened path e)
  | .unopened (.badPath flaw) => .badPath flaw
  | .refused flaw => .refused (.refused path flaw)

def reloadFile (read : FileReader) (path : Text) (c : NodeConfig) :
    NodeConfig × Outcome ReloadFailure HotSettings :=
  match readProperties read path with
  | .error e => (c, ⟨.error (.ofRead path e), [.reloading path], []⟩)
  | .ok bindings =>
    let (c, o) := applyHot bindings c
    (c, o.after [.reloading path])

/-- Replaces the settings that the properties file sets; without such a file there is nothing to
give. -/
def reload (read : FileReader) (path : Option Text) (c : NodeConfig) :
    NodeConfig × Outcome ReloadFailure (Option HotSettings) :=
  match path with
  | none => (c, ⟨.ok none, [.nothingToReload], []⟩)
  | some path =>
    let (c, o) := reloadFile read path c
    (c, o.map some)

end NodeSettings

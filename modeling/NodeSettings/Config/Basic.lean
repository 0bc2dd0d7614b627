import NodeSettings.Consistency

/-!
# The configuration of a node

Every field has a built-in value. The three settings that may change while the node runs are held
together, so that a change replaces all of them at once.
-/

namespace NodeSettings

/-! ### Settings of a running node -/

structure HotSettings where
  maxClients : Int := 10000
  /-- The time that a connection may take, in milliseconds. -/
  connectionTimeout : Int := 20000
  /-- The size of removed logs that is kept, in bytes. -/
  maxRemovedLogSize : Int := 536870912
  deriving DecidableEq, Repr

inductive HotField where
  | maxClients
  | connectionTimeout
  | maxRemovedLogSize
  deriving DecidableEq, Repr

namespace HotSettings

def get (hot : HotSettings) : HotField → Int
  | .maxClients => hot.maxClients
  | .connectionTimeout => hot.connectionTimeout
  | .maxRemovedLogSize => hot.maxRemovedLogSize

def set (hot : HotSettings) : HotField → Int → HotSettings
  | .maxClients, value => { hot with maxClients := value }
  | .connectionTimeout, value => { hot with connectionTimeout := value }
  | .maxRemovedLogSize, value => { hot with maxRemovedLogSize := value }

@[simp] theorem get_set_self (hot : HotSettings) (field : HotField) (value : Int) :
    (hot.set field value).get field = value := by
  cases field <;> rfl

theorem get_set_of_ne (hot : HotSettings) {field other : HotField} (h : other ≠ field)
    (value : Int) : (hot.set field value).get other = hot.get other := by
  cases field <;> cases other <;> first | rfl | exact absurd rfl h

/-- The settings with some of them replaced, one after the other. -/
def update (hot : HotSettings) (changes : List (HotField × Int)) : HotSettings :=
  changes.foldl (fun hot change => hot.set change.1 change.2) hot

end HotSettings

/-! ### The whole configuration -/

def defaultSeeds : List Text :=
  ["127.0.0.1:9003:40010", "127.0.0.1:9005:40012", "127.0.0.1:9007:40014"]

structure NodeConfig where
  localIp : Text := "127.0.0.1"
  metaPort : Int := 9003
  dataPort : Int := 40010
  clientPort : Int := 55560
  seeds : List Text := defaultSeeds
  replicas : Int := 2
  consistency : Consistency := .mid
  /-- The time that a query may take, in seconds. -/
  queryTimeout : Int := 30
  maxLogs : Int := 100
  /-- The time between two checks for logs to delete, in seconds. -/
  logDeletionInterval : Int := 3600
  batchCatchUp : Bool := true
  autoCreateSchema : Bool := true
  callCompression : Bool := false
  hot : HotSettings := {}
  deriving DecidableEq, Repr

end NodeSettings

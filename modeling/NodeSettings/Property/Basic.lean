import NodeSettings.Config.Basic

/-!
# Properties

A property is a field of the configuration that a properties file can set. It has a key in the
file, the name of its field in messages, and the type of its value. Reading and writing the field
of a property obey the laws of a record: what was written is read back, and no other field moves.
-/

namespace NodeSettings

inductive Kind where
  | text
  | integer
  | boolean
  | level
  | seeds
  deriving DecidableEq, Repr

abbrev Kind.Value : Kind → Type
  | .text => Text
  | .integer => Int
  | .boolean => Bool
  | .level => Consistency
  | .seeds => List Text

inductive Property where
  | localIp
  | metaPort
  | dataPort
  | clientPort
  | hot (field : HotField)
  | replicas
  | callCompression
  | queryTimeout
  | batchCatchUp
  | maxLogs
  | logDeletionInterval
  | autoCreateSchema
  | consistency
  | seeds
  deriving DecidableEq, Repr

/-! ### Names -/

/-- The settings of a running node in the order in which their properties are read. -/
def HotField.all : List HotField := [.maxClients, .connectionTimeout, .maxRemovedLogSize]

def HotField.key : HotField → Text
  | .maxClients => "MAX_CONCURRENT_CLIENT_NUM"
  | .connectionTimeout => "CONNECTION_TIME_OUT_MS"
  | .maxRemovedLogSize => "MAX_REMOVED_LOG_SIZE"

def HotField.name : HotField → Text
  | .maxClients => "max_concurrent_client_num"
  | .connectionTimeout => "connection_timeout_ms"
  | .maxRemovedLogSize => "max_removed_log_size"

namespace Property

/-- The properties in the order in which they are read. -/
def all : List Property :=
  [.localIp, .metaPort, .dataPort, .clientPort, .hot .maxClients, .replicas, .callCompression,
   .hot .connectionTimeout, .queryTimeout, .hot .maxRemovedLogSize, .batchCatchUp, .maxLogs,
   .logDeletionInterval, .autoCreateSchema, .consistency, .seeds]

def key : Property → Text
  | .localIp => "LOCAL_IP"
  | .metaPort => "LOCAL_META_PORT"
  | .dataPort => "LOCAL_DATA_PORT"
  | .clientPort => "LOCAL_CLIENT_PORT"
  | .hot field => field.key
  | .replicas => "REPLICA_NUM"
  | .callCompression => "ENABLE_THRIFT_COMPRESSION"
  | .queryTimeout => "QUERY_TIME_OUT_SEC"
  | .batchCatchUp => "USE_BATCH_IN_CATCH_UP"
  | .maxLogs => "MAX_NUMBER_OF_LOGS"
  | .logDeletionInterval => "LOG_DELETION_CHECK_INTERVAL_SECOND"
  | .autoCreateSchema => "ENABLE_AUTO_CREATE_SCHEMA"
  | .consistency => "CONSISTENCY_LEVEL"
  | .seeds => "SEED_NODES"

def name : Property → Text
  | .localIp => "local_ip"
  | .metaPort => "local_meta_port"
  | .dataPort => "local_data_port"
  | .clientPort => "local_client_port"
  | .hot field => field.name
  | .replicas => "replication_num"
  | .callCompression => "rpc_thrift_compression_enabled"
  | .queryTimeout => "query_timeout_sec"
  | .batchCatchUp => "use_batch_in_log_catch_up"
  | .maxLogs => "max_number_of_logs"
  | .logDeletionInterval => "log_delete_check_interval_sec"
  | .autoCreateSchema => "enable_auto_create_schema"
  | .consistency => "consistency_level"
  | .seeds => "seed_node_urls"

def ofKey? (key : Text) : Option Property := all.find? fun p => p.key = key

def ofName? (name : Text) : Option Property := all.find? fun p => p.name = name

theorem mem_all (p : Property) : p ∈ all := by
  cases p <;> first | decide | (rename_i field; cases field <;> decide)

/-! ### Fields -/

abbrev kind : Property → Kind
  | .localIp => .text
  | .metaPort | .dataPort | .clientPort | .hot _ | .replicas | .queryTimeout | .maxLogs
  | .logDeletionInterval => .integer
  | .callCompression | .batchCatchUp | .autoCreateSchema => .boolean
  | .consistency => .level
  | .seeds => .seeds

def get : (p : Property) → NodeConfig → p.kind.Value
  | .localIp, c => c.localIp
  | .metaPort, c => c.metaPort
  | .dataPort, c => c.dataPort
  | .clientPort, c => c.clientPort
  | .hot field, c => c.hot.get field
  | .replicas, c => c.replicas
  | .callCompression, c => c.callCompression
  | .queryTimeout, c => c.queryTimeout
  | .batchCatchUp, c => c.batchCatchUp
  | .maxLogs, c => c.maxLogs
  | .logDeletionInterval, c => c.logDeletionInterval
  | .autoCreateSchema, c => c.autoCreateSchema
  | .consistency, c => c.consistency
  | .seeds, c => c.seeds

def set : (p : Property) → p.kind.Value → NodeConfig → NodeConfig
  | .localIp, v, c => { c with localIp := v }
  | .metaPort, v, c => { c with metaPort := v }
  | .dataPort, v, c => { c with dataPort := v }
  | .clientPort, v, c => { c with clientPort := v }
  | .hot field, v, c => { c with hot := c.hot.set field v }
  | .replicas, v, c => { c with replicas := v }
  | .callCompression, v, c => { c with callCompression := v }
  | .queryTimeout, v, c => { c with queryTimeout := v }
  | .batchCatchUp, v, c => { c with batchCatchUp := v }
  | .maxLogs, v, c => { c with maxLogs := v }
  | .logDeletionInterval, v, c => { c with logDeletionInterval := v }
  | .autoCreateSchema, v, c => { c with autoCreateSchema := v }
  | .consistency, v, c => { c with consistency := v }
  | .seeds, v, c => { c with seeds := v }

@[simp] theorem get_set_self (p : Property) (v : p.kind.Value) (c : NodeConfig) :
    p.get (p.set v c) = v := by
  cases p <;> simp [get, set]

theorem get_set_of_ne {p q : Property} (h : q ≠ p) (v : p.kind.Value) (c : NodeConfig) :
    q.get (p.set v c) = q.get c := by
  cases p <;> cases q <;> try rfl
  all_goals first
    | exact absurd rfl h
    | exact HotSettings.get_set_of_ne _ (fun e => h (congrArg Property.hot e)) _

end Property

end NodeSettings

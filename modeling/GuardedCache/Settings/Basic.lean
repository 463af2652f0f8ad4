import GuardedCache.Circuit.Override
import GuardedCache.Protected.Binding
import GuardedCache.Table

/-!
# Settings

What the service is told when it starts.  Every part has a default but the
address of a Redis server.  The settings of the protected cache may override
single values of single operations: `bindings` lays them over the binding that
is built in.
-/

namespace GuardedCache

open Circuit Protected

/-- Where the admin surface is served. -/
structure ServerSettings where
  host : String := "0.0.0.0"
  port : UInt16 := 8080
deriving DecidableEq, Repr

/-- The form of the log. -/
inductive LogFormat where
  | compact
  | json
deriving DecidableEq, Repr

/-- The name of a form. -/
def LogFormat.name : LogFormat → String
  | .compact => "compact"
  | .json => "json"

/-- The form with a name. -/
def LogFormat.ofName? (name : String) : Option LogFormat :=
  if name = "compact" then some .compact
  else if name = "json" then some .json
  else none

/-- What is logged, and how. -/
structure LoggingSettings where
  level : String := "chat_resilience=info,tower_http=info"
  format : LogFormat := .compact
deriving DecidableEq, Repr

/-- The Redis server and how long it keeps entries. -/
structure RedisSettings where
  /-- The address of the server. -/
  url : String
  /-- The lifetime of a message in seconds. -/
  messageTtlSecs : UInt64 := 86400
  /-- The lifetime of a history in seconds. -/
  historyTtlSecs : UInt64 := 3600
deriving DecidableEq, Repr

/-- What one operation has of its own. -/
structure OperationOverride where
  timeoutMs : Option UInt64 := none
  /-- The changes of its breaker's configuration. -/
  breaker : Option Override := none
deriving DecidableEq, Repr

/-- The settings of the protected cache. -/
structure ProtectedSettings where
  /-- The deadline in milliseconds of operations that have no other. -/
  timeoutMs : UInt64 := 1000
  /-- What operations have of their own, by the names of their breakers. -/
  operations : Table String OperationOverride := .empty

/-- The settings of the service. -/
structure Settings where
  /-- Where the admin surface is served. -/
  server : ServerSettings := {}
  logging : LoggingSettings := {}
  /-- The Redis server; without one, messages are kept in memory. -/
  redis : Option RedisSettings := none
  /-- The configuration of breakers that have no other. -/
  breaker : Config := {}
  protectedCache : ProtectedSettings := {}

namespace RedisSettings

/-- The lifetime of a message. -/
def messageTtl (r : RedisSettings) : Duration := .ofSeconds r.messageTtlSecs.toNat

/-- The lifetime of a history. -/
def historyTtl (r : RedisSettings) : Duration := .ofSeconds r.historyTtlSecs.toNat

end RedisSettings

/-- What is wrong with settings. -/
inductive SettingsProblem where
  | noFile
  /-- The file is no text. -/
  | noText
  /-- The text does not denote settings, for a reason that its reader gives. -/
  | unreadable (reason : String)
  /-- A field of the breakers' defaults is zero. -/
  | breakerDefaults (field : Config.Field)
  /-- The deadline of all operations is zero. -/
  | zeroTimeout
  /-- There is no operation with this name. -/
  | unknownOperation (name : String)
  /-- The deadline of an operation is zero. -/
  | zeroOperationTimeout (name : String)
  /-- A field of an operation's breaker is zero. -/
  | operationBreaker (name : String) (field : Config.Field)
  /-- The address of the Redis server has another scheme. -/
  | redisScheme
  /-- A lifetime on the Redis server is zero. -/
  | redisLifetime
deriving DecidableEq, Repr

/-- The text of a problem. -/
def SettingsProblem.message : SettingsProblem → String
  | .noFile => "Failed to read config file: No such file or directory (os error 2)"
  | .noText => "Failed to read config file: stream did not contain valid UTF-8"
  | .unreadable reason => "Failed to parse config: " ++ reason
  | .breakerDefaults field => "Invalid circuit_breaker defaults: " ++ field.problem
  | .zeroTimeout => "protected_cache.operation_timeout_ms must be > 0"
  | .unknownOperation name => "Unknown protected cache operation: " ++ name
  | .zeroOperationTimeout name => "timeout_ms must be > 0 for operation: " ++ name
  | .operationBreaker name field =>
    "Invalid circuit_breaker for operation " ++ name ++ ": " ++ field.problem
  | .redisScheme => "Redis URL must start with redis:// or rediss://"
  | .redisLifetime => "Redis TTLs must be > 0"

namespace OperationOverride

/-- A binding with what the operation has of its own.  Changes of the breaker
are made to its configuration in the binding, or else to the defaults. -/
def apply (o : OperationOverride) (defaults : Config) (binding : Binding) : Binding where
  timeout :=
    match o.timeoutMs with
    | some millis => .ofMillis millis.toNat
    | none => binding.timeout
  breaker :=
    match o.breaker with
    | some change => some (change.apply (binding.breaker.getD defaults))
    | none => binding.breaker

/-- What is wrong with the override of an operation. -/
def problem (o : OperationOverride) (name : String) (defaults : Config) :
    Option SettingsProblem :=
  if (Operation.ofBreakerName? name).isNone then some (.unknownOperation name)
  else if o.timeoutMs = some 0 then some (.zeroOperationTimeout name)
  else do
    let change ← o.breaker
    let field ← (change.apply defaults).invalidField
    return .operationBreaker name field

end OperationOverride

namespace ProtectedSettings

/-- The deadline of operations that have no other. -/
def timeout (s : ProtectedSettings) : Duration := .ofMillis s.timeoutMs.toNat

/-- The bindings before any operation has something of its own. -/
def baseBindings (s : ProtectedSettings) : BindingTable :=
  fun operation => { Binding.builtIn operation with timeout := s.timeout }

/-- The bindings after one more operation got what it has of its own. -/
def bind (defaults : Config) (table : BindingTable) (entry : String × OperationOverride) :
    Except SettingsProblem BindingTable :=
  match Operation.ofBreakerName? entry.1 with
  | none => .error (.unknownOperation entry.1)
  | some operation =>
    .ok (table.set operation (entry.2.apply defaults (table operation)))

/-- The bindings of the five operations. -/
def bindings (s : ProtectedSettings) (defaults : Config) : Except SettingsProblem BindingTable :=
  s.operations.entries.foldlM (bind defaults) s.baseBindings

end ProtectedSettings

/-- What is wrong with the settings of a Redis server. -/
def RedisSettings.problem (r : RedisSettings) : Option SettingsProblem :=
  if ¬ ("redis://".isPrefixOf r.url ∨ "rediss://".isPrefixOf r.url) then some .redisScheme
  else if r.messageTtlSecs = 0 ∨ r.historyTtlSecs = 0 then some .redisLifetime
  else none

namespace Settings

/-- The first thing that is wrong with settings. -/
def problem (s : Settings) : Option SettingsProblem :=
  (s.breaker.invalidField.map .breakerDefaults).or <|
    (if s.protectedCache.timeoutMs = 0 then some .zeroTimeout else none).or <|
      (s.protectedCache.operations.entries.findSome? fun (name, o) => o.problem name s.breaker).or
        (s.redis.bind RedisSettings.problem)

/-- The bindings of the five operations. -/
def bindings (s : Settings) : Except SettingsProblem BindingTable :=
  s.protectedCache.bindings s.breaker

end Settings

end GuardedCache

import GuardedCache.Settings.Basic
import GuardedCache.Yaml.Grammar
import GuardedCache.Yaml.Reading

/-!
# Reading settings

Settings are a document of nested records.  `ofDocument?` gives the settings
that a document denotes; `ofText` and `ofFile` start from a text and from the
bytes of a file.  Why a text denotes no settings is said by the library that
reads it, and so it is left open here.
-/

namespace GuardedCache

open Circuit Yaml

/-- The server settings that a node stands for. -/
def ServerSettings.ofNode? (d : Document) (node : Node) : Option ServerSettings := do
  let fields ← d.fields? ["host", "port"] node
  let host ← fields.get "host" d.text? ({} : ServerSettings).host
  let port ← fields.get "port" d.word16? ({} : ServerSettings).port
  return { host, port }

/-- The form of the log that a node stands for: the text of a scalar, or the
private tag of one that denotes nothing. -/
def LogFormat.ofNode? (d : Document) (node : Node) : Option LogFormat :=
  match d.resolve node with
  | .scalar label text style =>
    match label.tag.bind privateName? with
    | none => LogFormat.ofName? text
    | some name =>
      if style = .plain && (text = "" || isNull text) then LogFormat.ofName? name else none
  | _ => none

/-- The logging settings that a node stands for. -/
def LoggingSettings.ofNode? (d : Document) (node : Node) : Option LoggingSettings := do
  let fields ← d.fields? ["level", "format"] node
  let level ← fields.get "level" d.text? ({} : LoggingSettings).level
  let format ← fields.get "format" (LogFormat.ofNode? d) ({} : LoggingSettings).format
  return { level, format }

/-- The Redis settings that a node stands for. -/
def RedisSettings.ofNode? (d : Document) (node : Node) : Option RedisSettings := do
  let fields ← d.fields? ["url", "message_ttl_secs", "chat_messages_ttl_secs"] node
  let base : RedisSettings := { url := ← fields.require "url" d.text? }
  let messageTtlSecs ← fields.get "message_ttl_secs" d.word64? base.messageTtlSecs
  let historyTtlSecs ← fields.get "chat_messages_ttl_secs" d.word64? base.historyTtlSecs
  return { base with messageTtlSecs, historyTtlSecs }

/-- The names of the fields of a breaker configuration. -/
def breakerFields : List String :=
  [Config.Field.failureThreshold.name, Config.Field.resetTimeoutMs.name,
    Config.Field.halfOpenMaxCalls.name]

/-- The breaker configuration that a node stands for. -/
def Circuit.Config.ofNode? (d : Document) (node : Node) : Option Config := do
  let fields ← d.fields? breakerFields node
  let base : Config := {}
  let failureThreshold ←
    fields.get Config.Field.failureThreshold.name d.word32? base.failureThreshold
  let resetTimeoutMs ← fields.get Config.Field.resetTimeoutMs.name d.word64? base.resetTimeoutMs
  let halfOpenMaxCalls ←
    fields.get Config.Field.halfOpenMaxCalls.name d.word32? base.halfOpenMaxCalls
  return { failureThreshold, resetTimeoutMs, halfOpenMaxCalls }

/-- The changes of a breaker configuration that a node stands for. -/
def Circuit.Override.ofNode? (d : Document) (node : Node) : Option Override := do
  let fields ← d.fields? breakerFields node
  let failureThreshold ←
    fields.get Config.Field.failureThreshold.name (d.optional? d.word32?) none
  let resetTimeoutMs ← fields.get Config.Field.resetTimeoutMs.name (d.optional? d.word64?) none
  let halfOpenMaxCalls ←
    fields.get Config.Field.halfOpenMaxCalls.name (d.optional? d.word32?) none
  return { failureThreshold, resetTimeoutMs, halfOpenMaxCalls }

/-- What an operation has of its own, from a node. -/
def OperationOverride.ofNode? (d : Document) (node : Node) : Option OperationOverride := do
  let fields ← d.fields? ["timeout_ms", "circuit_breaker"] node
  let timeoutMs ← fields.get "timeout_ms" (d.optional? d.word64?) none
  let breaker ← fields.get "circuit_breaker" (d.optional? (Override.ofNode? d)) none
  return { timeoutMs, breaker }

/-- What operations have of their own, from a node.  A name may be given more
than once; the last one counts. -/
def operationsOfNode? (d : Document) (node : Node) : Option (Table String OperationOverride) := do
  let entries ← (← d.entries? node).mapM fun (name, value) => do
    return (name, ← OperationOverride.ofNode? d value)
  return .ofList entries

/-- The settings of the protected cache that a node stands for. -/
def ProtectedSettings.ofNode? (d : Document) (node : Node) : Option ProtectedSettings := do
  let fields ← d.fields? ["operation_timeout_ms", "operations"] node
  let timeoutMs ← fields.get "operation_timeout_ms" d.word64? ({} : ProtectedSettings).timeoutMs
  let operations ← fields.get "operations" (operationsOfNode? d) .empty
  return { timeoutMs, operations }

namespace Settings

/-- The settings that a node stands for. -/
def ofNode? (d : Document) (node : Node) : Option Settings := do
  let fields ← d.fields? ["server", "logging", "redis", "circuit_breaker", "protected_cache"] node
  let server ← fields.get "server" (ServerSettings.ofNode? d) {}
  let logging ← fields.get "logging" (LoggingSettings.ofNode? d) {}
  let redis ← fields.get "redis" (d.optional? (RedisSettings.ofNode? d)) none
  let breaker ← fields.get "circuit_breaker" (Config.ofNode? d) {}
  let protectedCache ← fields.get "protected_cache" (ProtectedSettings.ofNode? d) {}
  return { server, logging, redis, breaker, protectedCache }

/-- The settings that a document denotes. -/
def ofDocument? (d : Document) : Option Settings :=
  ofNode? d d.root

/-- The settings that a text denotes. -/
def ofText (reason : String → String) (text : String) : Except SettingsProblem Settings :=
  match Document.read? text >>= ofDocument? with
  | some settings => .ok settings
  | none => .error (.unreadable (reason text))

/-- The settings in a file, from its bytes if there is one. -/
def ofFile (reason : String → String) : Option (List UInt8) → Except SettingsProblem Settings
  | none => .error .noFile
  | some bytes =>
    match Text.Utf8.decode? bytes with
    | none => .error .noText
    | some text => ofText reason text

end Settings

end GuardedCache

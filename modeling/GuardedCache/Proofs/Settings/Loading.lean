import GuardedCache.Proofs.Settings.Layers
import GuardedCache.Proofs.Yaml.Records
import GuardedCache.Settings.Reader

/-!
# Settings are read as they are written

`IsWritten` says of settings, part by part, that the entries of a record write them: what has its
default may be left out, and only the address of a Redis server has none.  A section may be left
out where it could be written without entries.  Entries with other names are passed over, and
those of one record may stand in any order.
-/

namespace GuardedCache

open Circuit Yaml

namespace Yaml.Document

/-- A node is a record whose entries write something. -/
def WritesRecord (d : Document) (writes : Fields → Prop) (node : Node) : Prop :=
  ∃ entries, d.IsRecord entries node ∧ writes entries

/-- A node is a mapping whose entries write something. -/
def WritesMapping (d : Document) (writes : Fields → Prop) (node : Node) : Prop :=
  ∃ entries, d.IsMapping entries node ∧ writes entries

end Yaml.Document

/-- Entries have a section in one place, or in none if it could be written without entries. -/
def Yaml.Fields.HasSection (entries : Fields) (name : String) (d : Document)
    (writes : Fields → Prop) : Prop :=
  entries.Holds name (d.WritesRecord writes) (writes [])

/-! ## What the entries of a record write -/

structure ServerSettings.IsWritten (s : ServerSettings) (d : Document) (entries : Fields) :
    Prop where
  host : entries.Holds "host" (d.IsText s.host) (s.host = "0.0.0.0")
  port : entries.Holds "port" (d.IsNumber s.port.toNat) (s.port = 8080)

structure LoggingSettings.IsWritten (s : LoggingSettings) (d : Document) (entries : Fields) :
    Prop where
  level : entries.Holds "level" (d.IsText s.level)
    (s.level = "chat_resilience=info,tower_http=info")
  format : entries.Holds "format" (d.IsText s.format.name) (s.format = .compact)

structure RedisSettings.IsWritten (s : RedisSettings) (d : Document) (entries : Fields) :
    Prop where
  url : entries.Holds "url" (d.IsText s.url) False
  messageTtlSecs : entries.Holds "message_ttl_secs" (d.IsNumber s.messageTtlSecs.toNat)
    (s.messageTtlSecs = 86400)
  historyTtlSecs : entries.Holds "chat_messages_ttl_secs" (d.IsNumber s.historyTtlSecs.toNat)
    (s.historyTtlSecs = 3600)

structure Circuit.Config.IsWritten (c : Config) (d : Document) (entries : Fields) : Prop where
  failureThreshold : entries.Holds "failure_threshold" (d.IsNumber c.failureThreshold.toNat)
    (c.failureThreshold = 5)
  resetTimeoutMs : entries.Holds "reset_timeout_ms" (d.IsNumber c.resetTimeoutMs.toNat)
    (c.resetTimeoutMs = 10000)
  halfOpenMaxCalls : entries.Holds "half_open_max_calls" (d.IsNumber c.halfOpenMaxCalls.toNat)
    (c.halfOpenMaxCalls = 1)

structure Circuit.Override.IsWritten (o : Override) (d : Document) (entries : Fields) : Prop where
  failureThreshold : entries.Holds "failure_threshold"
    (d.IsOptional (fun n => d.IsNumber n.toNat) o.failureThreshold) (o.failureThreshold = none)
  resetTimeoutMs : entries.Holds "reset_timeout_ms"
    (d.IsOptional (fun n => d.IsNumber n.toNat) o.resetTimeoutMs) (o.resetTimeoutMs = none)
  halfOpenMaxCalls : entries.Holds "half_open_max_calls"
    (d.IsOptional (fun n => d.IsNumber n.toNat) o.halfOpenMaxCalls) (o.halfOpenMaxCalls = none)

structure OperationOverride.IsWritten (o : OperationOverride) (d : Document) (entries : Fields) :
    Prop where
  timeoutMs : entries.Holds "timeout_ms" (d.IsOptional (fun n => d.IsNumber n.toNat) o.timeoutMs)
    (o.timeoutMs = none)
  breaker : entries.Holds "circuit_breaker"
    (d.IsOptional (fun change => d.WritesMapping (change.IsWritten d)) o.breaker)
    (o.breaker = none)

/-- The entries of a mapping write what operations have of their own, in any order. -/
def WritesOperations (operations : Table String OperationOverride) (d : Document)
    (entries : Fields) : Prop :=
  ∃ inOrder : List (String × OperationOverride), inOrder.Perm operations.entries ∧
    List.Forall₂ (fun entry operation => entry.1 = operation.1 ∧
      d.WritesRecord (operation.2.IsWritten d) entry.2) entries inOrder

structure ProtectedSettings.IsWritten (s : ProtectedSettings) (d : Document) (entries : Fields) :
    Prop where
  timeoutMs : entries.Holds "operation_timeout_ms" (d.IsNumber s.timeoutMs.toNat)
    (s.timeoutMs = 1000)
  operations : entries.HasSection "operations" d (WritesOperations s.operations d)

structure Settings.IsWritten (s : Settings) (d : Document) (entries : Fields) : Prop where
  server : entries.HasSection "server" d (s.server.IsWritten d)
  logging : entries.HasSection "logging" d (s.logging.IsWritten d)
  redis : entries.Holds "redis"
    (d.IsOptional (fun redis => d.WritesMapping (redis.IsWritten d)) s.redis) (s.redis = none)
  breaker : entries.HasSection "circuit_breaker" d (s.breaker.IsWritten d)
  protectedCache : entries.HasSection "protected_cache" d (s.protectedCache.IsWritten d)

/-- A document writes settings. -/
def Settings.IsWrittenIn (s : Settings) (d : Document) : Prop :=
  d.WritesRecord (s.IsWritten d) d.root

/-! ## Reading -/

variable {d : Document} {node : Node} {entries : Fields}

/-- A section is read if its records are, also where it is left out: it has the value then that
would be read if nothing were written in its place. -/
theorem Yaml.Fields.HasSection.exists_get {name : String} {writes : Fields → Prop}
    (has : entries.HasSection name d writes) {names : List String} (isField : name ∈ names)
    {α : Type} {decode : Node → Option α} {default : α} {Means : α → Prop}
    (reads : ∀ {entries node}, writes entries → d.IsRecord entries node →
      ∃ value, decode node = some value ∧ Means value)
    (empty : decode .empty = some default) :
    ∃ value, (entries.known names).get name decode default = some value ∧ Means value := by
  refine Fields.Holds.exists_get has isField (fun node written => ?_) fun omitted => ?_
  · obtain ⟨inner, record, written⟩ := written
    exact reads written record
  · obtain ⟨value, read, means⟩ := reads omitted (.inr ⟨rfl, none, rfl⟩ : d.IsRecord [] .empty)
    cases (Eq.symm empty).trans read
    exact means

theorem Yaml.Fields.HasSection.get_eq {name : String} {writes : Fields → Prop}
    (has : entries.HasSection name d writes) {names : List String} (isField : name ∈ names)
    {α : Type} {decode : Node → Option α} {value default : α}
    (reads : ∀ {entries node}, writes entries → d.IsRecord entries node → decode node = some value)
    (empty : decode .empty = some default) :
    (entries.known names).get name decode default = some value := by
  obtain ⟨_, got, rfl⟩ : ∃ v, (entries.known names).get name decode default = some v ∧ v = value :=
    has.exists_get isField (fun written record => ⟨value, reads written record, rfl⟩) empty
  exact got

theorem ServerSettings.IsWritten.ofNode?_eq {s : ServerSettings} (written : s.IsWritten d entries)
    (record : d.IsRecord entries node) : ofNode? d node = some s := by
  have once : entries.GivesOnce ["host", "port"] :=
    written.host.givesOnce (written.port.givesOnce entries.givesOnce_nil)
  have host : (entries.known ["host", "port"]).get "host" d.text? _ = some s.host :=
    written.host.get_eq (by decide) (fun _ => Document.IsText.text?_eq) id
  have port : (entries.known ["host", "port"]).get "port" d.word16? _ = some s.port :=
    written.port.get_eq (by decide) (fun _ => Document.IsNumber.word16?_eq) id
  rw [ofNode?, record.fields?_eq once, Option.bind_eq_bind, Option.bind_some, host, port]
  rfl

theorem LogFormat.ofNode?_eq {format : LogFormat} (written : d.IsText format.name node) :
    ofNode? d node = some format := by
  obtain ⟨style, anchor, same⟩ := written
  rw [ofNode?, same]
  cases format <;> rfl

theorem LoggingSettings.IsWritten.ofNode?_eq {s : LoggingSettings}
    (written : s.IsWritten d entries) (record : d.IsRecord entries node) :
    ofNode? d node = some s := by
  have once : entries.GivesOnce ["level", "format"] :=
    written.level.givesOnce (written.format.givesOnce entries.givesOnce_nil)
  have level : (entries.known ["level", "format"]).get "level" d.text? _ = some s.level :=
    written.level.get_eq (by decide) (fun _ => Document.IsText.text?_eq) id
  have format : (entries.known ["level", "format"]).get "format" (LogFormat.ofNode? d) _ =
      some s.format :=
    written.format.get_eq (by decide) (fun _ => LogFormat.ofNode?_eq) id
  rw [ofNode?, record.fields?_eq once, Option.bind_eq_bind, Option.bind_some, level, format]
  rfl

theorem RedisSettings.IsWritten.ofNode?_eq {s : RedisSettings} (written : s.IsWritten d entries)
    (record : d.IsRecord entries node) : ofNode? d node = some s := by
  let names := ["url", "message_ttl_secs", "chat_messages_ttl_secs"]
  have once : entries.GivesOnce names := written.url.givesOnce
    (written.messageTtlSecs.givesOnce (written.historyTtlSecs.givesOnce entries.givesOnce_nil))
  have url : (entries.known names).require "url" d.text? = some s.url :=
    written.url.require_eq (by decide) fun _ => Document.IsText.text?_eq
  have message : (entries.known names).get "message_ttl_secs" d.word64? _ =
      some s.messageTtlSecs :=
    written.messageTtlSecs.get_eq (by decide) (fun _ => Document.IsNumber.word64?_eq) id
  have history : (entries.known names).get "chat_messages_ttl_secs" d.word64? _ =
      some s.historyTtlSecs :=
    written.historyTtlSecs.get_eq (by decide) (fun _ => Document.IsNumber.word64?_eq) id
  rw [ofNode?, record.fields?_eq once, Option.bind_eq_bind, Option.bind_some, url,
    Option.bind_eq_bind, Option.bind_some]
  simp only [message, history]
  rfl

theorem Circuit.Config.IsWritten.ofNode?_eq {c : Config} (written : c.IsWritten d entries)
    (record : d.IsRecord entries node) : Config.ofNode? d node = some c := by
  have once : entries.GivesOnce breakerFields := written.failureThreshold.givesOnce
    (written.resetTimeoutMs.givesOnce
      (written.halfOpenMaxCalls.givesOnce entries.givesOnce_nil))
  have threshold : (entries.known breakerFields).get Config.Field.failureThreshold.name
      d.word32? _ = some c.failureThreshold :=
    written.failureThreshold.get_eq (by decide) (fun _ => Document.IsNumber.word32?_eq) id
  have timeout : (entries.known breakerFields).get Config.Field.resetTimeoutMs.name
      d.word64? _ = some c.resetTimeoutMs :=
    written.resetTimeoutMs.get_eq (by decide) (fun _ => Document.IsNumber.word64?_eq) id
  have calls : (entries.known breakerFields).get Config.Field.halfOpenMaxCalls.name
      d.word32? _ = some c.halfOpenMaxCalls :=
    written.halfOpenMaxCalls.get_eq (by decide) (fun _ => Document.IsNumber.word32?_eq) id
  rw [Config.ofNode?, record.fields?_eq once, Option.bind_eq_bind, Option.bind_some]
  simp only [threshold, timeout, calls]
  rfl

theorem optional?_word32?_eq {value : Option UInt32}
    (written : d.IsOptional (fun n => d.IsNumber n.toNat) value node) :
    d.optional? d.word32? node = some value :=
  written.optional?_eq (fun _ => Document.IsNumber.isAbsent?)
    (fun _ => Document.IsNumber.word32?_eq)

theorem optional?_word64?_eq {value : Option UInt64}
    (written : d.IsOptional (fun n => d.IsNumber n.toNat) value node) :
    d.optional? d.word64? node = some value :=
  written.optional?_eq (fun _ => Document.IsNumber.isAbsent?)
    (fun _ => Document.IsNumber.word64?_eq)

/-- An optional record is read if records are. -/
theorem optional?_record_eq {α : Type} {writes : α → Fields → Prop} {decode : Node → Option α}
    {value : Option α}
    (written : d.IsOptional (fun value => d.WritesMapping (writes value)) value node)
    (reads : ∀ {value entries node}, writes value entries → d.IsRecord entries node →
      decode node = some value) :
    d.optional? decode node = some value :=
  written.optional?_eq (fun _ ⟨_, mapping, _⟩ => mapping.isAbsent?)
    fun _ ⟨_, mapping, written⟩ => reads written (.inl mapping)

theorem Circuit.Override.IsWritten.ofNode?_eq {o : Override} (written : o.IsWritten d entries)
    (record : d.IsRecord entries node) : Override.ofNode? d node = some o := by
  have once : entries.GivesOnce breakerFields := written.failureThreshold.givesOnce
    (written.resetTimeoutMs.givesOnce
      (written.halfOpenMaxCalls.givesOnce entries.givesOnce_nil))
  have threshold : (entries.known breakerFields).get Config.Field.failureThreshold.name
      (d.optional? d.word32?) _ = some o.failureThreshold :=
    written.failureThreshold.get_eq (by decide) (fun _ => optional?_word32?_eq) id
  have timeout : (entries.known breakerFields).get Config.Field.resetTimeoutMs.name
      (d.optional? d.word64?) _ = some o.resetTimeoutMs :=
    written.resetTimeoutMs.get_eq (by decide) (fun _ => optional?_word64?_eq) id
  have calls : (entries.known breakerFields).get Config.Field.halfOpenMaxCalls.name
      (d.optional? d.word32?) _ = some o.halfOpenMaxCalls :=
    written.halfOpenMaxCalls.get_eq (by decide) (fun _ => optional?_word32?_eq) id
  rw [Override.ofNode?, record.fields?_eq once, Option.bind_eq_bind, Option.bind_some]
  simp only [threshold, timeout, calls]
  rfl

theorem OperationOverride.IsWritten.ofNode?_eq {o : OperationOverride}
    (written : o.IsWritten d entries) (record : d.IsRecord entries node) :
    ofNode? d node = some o := by
  let names := ["timeout_ms", "circuit_breaker"]
  have once : entries.GivesOnce names :=
    written.timeoutMs.givesOnce (written.breaker.givesOnce entries.givesOnce_nil)
  have timeout : (entries.known names).get "timeout_ms" (d.optional? d.word64?) _ =
      some o.timeoutMs :=
    written.timeoutMs.get_eq (by decide) (fun _ => optional?_word64?_eq) id
  have breaker : (entries.known names).get "circuit_breaker"
      (d.optional? (Override.ofNode? d)) _ = some o.breaker :=
    written.breaker.get_eq (by decide)
      (fun _ written => optional?_record_eq written Override.IsWritten.ofNode?_eq) id
  rw [ofNode?, record.fields?_eq once, Option.bind_eq_bind, Option.bind_some]
  simp only [timeout, breaker]
  rfl

/-! ### Operations -/

theorem Table.put_of_notMem {κ α : Type} [DecidableEq κ] {entries : List (κ × α)} {key : κ}
    (fresh : key ∉ entries.map Prod.fst) (value : α) :
    put entries key value = entries ++ [(key, value)] := by
  induction entries with
  | nil => rfl
  | cons entry rest ih =>
    rw [List.map_cons, List.mem_cons, not_or] at fresh
    rw [put, if_neg (Ne.symm fresh.1), ih fresh.2, List.cons_append]

theorem Table.entries_foldl_insert {κ α : Type} [DecidableEq κ] {rest : List (κ × α)}
    {t : Table κ α} (distinct : ((t.entries ++ rest).map Prod.fst).Nodup) :
    (rest.foldl (fun t entry => t.insert entry.1 entry.2) t).entries = t.entries ++ rest := by
  induction rest generalizing t with
  | nil => exact (List.append_nil t.entries).symm
  | cons entry rest ih =>
    have fresh : entry.1 ∉ t.entries.map Prod.fst := by
      rw [List.map_append, List.map_cons, List.nodup_middle, List.nodup_cons] at distinct
      exact fun member => distinct.1 (List.mem_append_left _ member)
    have inserted : (t.insert entry.1 entry.2).entries = t.entries ++ [entry] :=
      put_of_notMem fresh entry.2
    have apart : t.entries ++ entry :: rest = (t.insert entry.1 entry.2).entries ++ rest := by
      rw [inserted, List.append_assoc, List.singleton_append]
    rw [apart] at distinct ⊢
    exact ih distinct

/-- A table keeps the order of entries with different keys. -/
theorem Table.entries_ofList {κ α : Type} [DecidableEq κ] {entries : List (κ × α)}
    (distinct : (entries.map Prod.fst).Nodup) : (ofList entries).entries = entries :=
  entries_foldl_insert (t := empty) distinct

theorem WritesOperations.exists_read {operations : Table String OperationOverride}
    (written : WritesOperations operations d entries) (record : d.IsRecord entries node) :
    ∃ table, operationsOfNode? d node = some table ∧
      table.entries.Perm operations.entries := by
  obtain ⟨inOrder, same, each⟩ := written
  refine ⟨.ofList inOrder, ?_, ?_⟩
  · rw [operationsOfNode?, record.entries?_eq, Option.bind_eq_bind, Option.bind_some]
    refine Option.bind_eq_some_iff.mpr ⟨inOrder, mapM_eq_some_of_forall₂ ?_, rfl⟩
    refine each.imp fun entry operation writes => ?_
    obtain ⟨same, inner, record, written⟩ := writes
    obtain ⟨name, value⟩ := entry
    cases same
    simp only [written.ofNode?_eq record]
    rfl
  · rw [Table.entries_ofList ((same.map Prod.fst).nodup_iff.mpr operations.distinct)]
    exact same

/-! ### The whole -/

/-- Settings of the protected cache that are the same but for the order of the operations, which
has no meaning. -/
structure ProtectedSettings.IsSame (s other : ProtectedSettings) : Prop where
  timeoutMs : s.timeoutMs = other.timeoutMs
  operations : s.operations.entries.Perm other.operations.entries

theorem ProtectedSettings.IsWritten.exists_read {s : ProtectedSettings}
    (written : s.IsWritten d entries) (record : d.IsRecord entries node) :
    ∃ read, ofNode? d node = some read ∧ read.IsSame s := by
  let names := ["operation_timeout_ms", "operations"]
  have once : entries.GivesOnce names :=
    written.timeoutMs.givesOnce (written.operations.givesOnce entries.givesOnce_nil)
  have timeout : (entries.known names).get "operation_timeout_ms" d.word64? _ =
      some s.timeoutMs :=
    written.timeoutMs.get_eq (by decide) (fun _ => Document.IsNumber.word64?_eq) id
  obtain ⟨table, operations, same⟩ : ∃ table,
      (entries.known names).get "operations" (operationsOfNode? d) .empty = some table ∧
        table.entries.Perm s.operations.entries :=
    written.operations.exists_get (by decide) WritesOperations.exists_read rfl
  refine ⟨⟨s.timeoutMs, table⟩, ?_, rfl, same⟩
  rw [ProtectedSettings.ofNode?, record.fields?_eq once, Option.bind_eq_bind, Option.bind_some]
  simp only [timeout, operations]
  rfl

/-- Settings that are the same but for the order of the operations, which has no meaning. -/
structure Settings.IsSame (s other : Settings) : Prop where
  server : s.server = other.server
  logging : s.logging = other.logging
  redis : s.redis = other.redis
  breaker : s.breaker = other.breaker
  protectedCache : s.protectedCache.IsSame other.protectedCache

theorem Settings.IsWritten.exists_read {s : Settings} (written : s.IsWritten d entries)
    (record : d.IsRecord entries node) : ∃ read, ofNode? d node = some read ∧ read.IsSame s := by
  let names := ["server", "logging", "redis", "circuit_breaker", "protected_cache"]
  have once : entries.GivesOnce names := written.server.givesOnce <| written.logging.givesOnce <|
    written.redis.givesOnce <| written.breaker.givesOnce <|
      written.protectedCache.givesOnce entries.givesOnce_nil
  have server : (entries.known names).get "server" (ServerSettings.ofNode? d) _ = some s.server :=
    written.server.get_eq (by decide) ServerSettings.IsWritten.ofNode?_eq rfl
  have logging : (entries.known names).get "logging" (LoggingSettings.ofNode? d) _ =
      some s.logging :=
    written.logging.get_eq (by decide) LoggingSettings.IsWritten.ofNode?_eq rfl
  have redis : (entries.known names).get "redis" (d.optional? (RedisSettings.ofNode? d)) _ =
      some s.redis :=
    written.redis.get_eq (by decide)
      (fun _ written => optional?_record_eq written RedisSettings.IsWritten.ofNode?_eq) id
  have breaker : (entries.known names).get "circuit_breaker" (Config.ofNode? d) _ =
      some s.breaker :=
    written.breaker.get_eq (by decide) Config.IsWritten.ofNode?_eq rfl
  obtain ⟨cache, protectedCache, same⟩ : ∃ cache,
      (entries.known names).get "protected_cache" (ProtectedSettings.ofNode? d) {} = some cache ∧
        cache.IsSame s.protectedCache :=
    written.protectedCache.exists_get (by decide) ProtectedSettings.IsWritten.exists_read rfl
  refine ⟨⟨s.server, s.logging, s.redis, s.breaker, cache⟩, ?_, rfl, rfl, rfl, rfl, same⟩
  rw [Settings.ofNode?, record.fields?_eq once, Option.bind_eq_bind, Option.bind_some]
  simp only [server, logging, redis, breaker, protectedCache]
  rfl

/-! ## Settings written in full -/

namespace Yaml

namespace Node

/-- A text as a node. -/
def ofText (text : String) : Node := .scalar {} text .quoted

/-- A number as a node. -/
def ofNat (number : Nat) : Node := .scalar {} (toString number) .plain

/-- An optional value as a node. -/
def ofOption {α : Type} (write : α → Node) : Option α → Node
  | none => .scalar {} "null" .plain
  | some value => write value

/-- A record as a node. -/
def ofFields (fields : Fields) : Node :=
  .mapping {} (fields.map fun (name, value) => (ofText name, value))

end Node

namespace Document

theorem isText_ofText (d : Document) (text : String) : d.IsText text (.ofText text) :=
  ⟨.quoted, none, rfl⟩

theorem isNumber_ofNat (d : Document) (number : Nat) : d.IsNumber number (.ofNat number) :=
  ⟨none, rfl⟩

theorem isOptional_ofOption {α : Type} {d : Document} {writes : α → Node → Prop}
    {write : α → Node} (written : ∀ value, writes value (write value)) (value : Option α) :
    d.IsOptional writes value (.ofOption write value) := by
  cases value with
  | none => exact ⟨"null", by decide, none, rfl⟩
  | some value => exact written value

theorem isMapping_ofFields (d : Document) (fields : Fields) :
    d.IsMapping fields (.ofFields fields) := by
  refine ⟨none, _, rfl, ?_⟩
  rw [List.forall₂_map_left_iff, List.forall₂_same]
  exact fun field _ => ⟨⟨{}, .quoted, rfl⟩, rfl⟩

theorem writesMapping_ofFields {d : Document} {writes : Fields → Prop} {fields : Fields}
    (written : writes fields) : d.WritesMapping writes (.ofFields fields) :=
  ⟨fields, d.isMapping_ofFields fields, written⟩

theorem writesRecord_ofFields {d : Document} {writes : Fields → Prop} {fields : Fields}
    (written : writes fields) : d.WritesRecord writes (.ofFields fields) :=
  ⟨fields, .inl (d.isMapping_ofFields fields), written⟩

end Document

theorem Fields.Holds.of_mem {entries : Fields} {name : String} {value : Node}
    {writes : Node → Prop} {mayOmit : Prop} (member : (name, value) ∈ entries)
    (distinct : (entries.map Prod.fst).Nodup) (written : writes value) :
    entries.Holds name writes mayOmit :=
  .given value member
    (List.count_eq_one_of_mem distinct (List.mem_map.mpr ⟨(name, value), member, rfl⟩)) written

end Yaml

/-- All fields of the server settings. -/
def ServerSettings.fields (s : ServerSettings) : Fields :=
  [("host", .ofText s.host), ("port", .ofNat s.port.toNat)]

theorem ServerSettings.isWritten_fields (s : ServerSettings) (d : Document) :
    s.IsWritten d s.fields := by
  have distinct : (s.fields.map Prod.fst).Nodup :=
    show ["host", "port"].Nodup by decide
  exact {
    host := .of_mem (by simp [fields]) distinct (d.isText_ofText _)
    port := .of_mem (by simp [fields]) distinct (d.isNumber_ofNat _) }

/-- All fields of the logging settings. -/
def LoggingSettings.fields (s : LoggingSettings) : Fields :=
  [("level", .ofText s.level), ("format", .ofText s.format.name)]

theorem LoggingSettings.isWritten_fields (s : LoggingSettings) (d : Document) :
    s.IsWritten d s.fields := by
  have distinct : (s.fields.map Prod.fst).Nodup :=
    show ["level", "format"].Nodup by decide
  exact {
    level := .of_mem (by simp [fields]) distinct (d.isText_ofText _)
    format := .of_mem (by simp [fields]) distinct (d.isText_ofText _) }

/-- All fields of the Redis settings. -/
def RedisSettings.fields (s : RedisSettings) : Fields :=
  [("url", .ofText s.url), ("message_ttl_secs", .ofNat s.messageTtlSecs.toNat),
    ("chat_messages_ttl_secs", .ofNat s.historyTtlSecs.toNat)]

theorem RedisSettings.isWritten_fields (s : RedisSettings) (d : Document) :
    s.IsWritten d s.fields := by
  have distinct : (s.fields.map Prod.fst).Nodup :=
    show ["url", "message_ttl_secs", "chat_messages_ttl_secs"].Nodup by decide
  exact {
    url := .of_mem (by simp [fields]) distinct (d.isText_ofText _)
    messageTtlSecs := .of_mem (by simp [fields]) distinct (d.isNumber_ofNat _)
    historyTtlSecs := .of_mem (by simp [fields]) distinct (d.isNumber_ofNat _) }

theorem nodup_breakerFields : breakerFields.Nodup := by decide

/-- All fields of a breaker configuration. -/
def Circuit.Config.fields (c : Config) : Fields :=
  [("failure_threshold", .ofNat c.failureThreshold.toNat),
    ("reset_timeout_ms", .ofNat c.resetTimeoutMs.toNat),
    ("half_open_max_calls", .ofNat c.halfOpenMaxCalls.toNat)]

theorem Circuit.Config.isWritten_fields (c : Config) (d : Document) : c.IsWritten d c.fields where
  failureThreshold := .of_mem (by simp [fields]) nodup_breakerFields (d.isNumber_ofNat _)
  resetTimeoutMs := .of_mem (by simp [fields]) nodup_breakerFields (d.isNumber_ofNat _)
  halfOpenMaxCalls := .of_mem (by simp [fields]) nodup_breakerFields (d.isNumber_ofNat _)

/-- All fields of the changes of a breaker configuration. -/
def Circuit.Override.fields (o : Override) : Fields :=
  [("failure_threshold", .ofOption (.ofNat ·.toNat) o.failureThreshold),
    ("reset_timeout_ms", .ofOption (.ofNat ·.toNat) o.resetTimeoutMs),
    ("half_open_max_calls", .ofOption (.ofNat ·.toNat) o.halfOpenMaxCalls)]

theorem Circuit.Override.isWritten_fields (o : Override) (d : Document) :
    o.IsWritten d o.fields where
  failureThreshold := .of_mem (by simp [fields]) nodup_breakerFields
    (Document.isOptional_ofOption (fun _ => d.isNumber_ofNat _) _)
  resetTimeoutMs := .of_mem (by simp [fields]) nodup_breakerFields
    (Document.isOptional_ofOption (fun _ => d.isNumber_ofNat _) _)
  halfOpenMaxCalls := .of_mem (by simp [fields]) nodup_breakerFields
    (Document.isOptional_ofOption (fun _ => d.isNumber_ofNat _) _)

/-- All fields of what an operation has of its own. -/
def OperationOverride.fields (o : OperationOverride) : Fields :=
  [("timeout_ms", .ofOption (.ofNat ·.toNat) o.timeoutMs),
    ("circuit_breaker", .ofOption (.ofFields ·.fields) o.breaker)]

theorem OperationOverride.isWritten_fields (o : OperationOverride) (d : Document) :
    o.IsWritten d o.fields := by
  have distinct : (o.fields.map Prod.fst).Nodup :=
    show ["timeout_ms", "circuit_breaker"].Nodup by decide
  exact {
    timeoutMs := .of_mem (by simp [fields]) distinct
      (Document.isOptional_ofOption (fun _ => d.isNumber_ofNat _) _)
    breaker := .of_mem (by simp [fields]) distinct (Document.isOptional_ofOption
      (fun change => Document.writesMapping_ofFields (change.isWritten_fields d)) _) }

/-- The operations that have something of their own, each with all its fields. -/
def operationFields (operations : Table String OperationOverride) : Fields :=
  operations.entries.map fun (name, o) => (name, .ofFields o.fields)

theorem writesOperations_operationFields (operations : Table String OperationOverride)
    (d : Document) : WritesOperations operations d (operationFields operations) := by
  refine ⟨operations.entries, .refl _, ?_⟩
  rw [operationFields, List.forall₂_map_left_iff, List.forall₂_same]
  exact fun operation _ => ⟨rfl, Document.writesRecord_ofFields (operation.2.isWritten_fields d)⟩

/-- All fields of the settings of the protected cache. -/
def ProtectedSettings.fields (s : ProtectedSettings) : Fields :=
  [("operation_timeout_ms", .ofNat s.timeoutMs.toNat),
    ("operations", .ofFields (operationFields s.operations))]

theorem ProtectedSettings.isWritten_fields (s : ProtectedSettings) (d : Document) :
    s.IsWritten d s.fields := by
  have distinct : (s.fields.map Prod.fst).Nodup :=
    show ["operation_timeout_ms", "operations"].Nodup by decide
  exact {
    timeoutMs := .of_mem (by simp [fields]) distinct (d.isNumber_ofNat _)
    operations := .of_mem (by simp [fields]) distinct
      (Document.writesRecord_ofFields (writesOperations_operationFields s.operations d)) }

/-- All fields of the settings. -/
def Settings.fields (s : Settings) : Fields :=
  [("server", .ofFields s.server.fields), ("logging", .ofFields s.logging.fields),
    ("redis", .ofOption (.ofFields ·.fields) s.redis),
    ("circuit_breaker", .ofFields s.breaker.fields),
    ("protected_cache", .ofFields s.protectedCache.fields)]

theorem Settings.isWritten_fields (s : Settings) (d : Document) : s.IsWritten d s.fields := by
  have distinct : (s.fields.map Prod.fst).Nodup :=
    show ["server", "logging", "redis", "circuit_breaker", "protected_cache"].Nodup by decide
  exact {
    server := .of_mem (by simp [fields]) distinct
      (Document.writesRecord_ofFields (s.server.isWritten_fields d))
    logging := .of_mem (by simp [fields]) distinct
      (Document.writesRecord_ofFields (s.logging.isWritten_fields d))
    redis := .of_mem (by simp [fields]) distinct (Document.isOptional_ofOption
      (fun redis => Document.writesMapping_ofFields (redis.isWritten_fields d)) _)
    breaker := .of_mem (by simp [fields]) distinct
      (Document.writesRecord_ofFields (s.breaker.isWritten_fields d))
    protectedCache := .of_mem (by simp [fields]) distinct
      (Document.writesRecord_ofFields (s.protectedCache.isWritten_fields d)) }

/-! ## Loading -/

/-- The document in which settings are written in full. -/
def Settings.document (s : Settings) : Document :=
  .ofRoot (.ofFields s.fields)

/-- Settings are loaded from every document that writes them, the one in which they are written
in full among these. -/
theorem Settings.written_settings_load (s : Settings) :
    s.IsWrittenIn s.document ∧
      ∀ d, s.IsWrittenIn d → ∃ read, ofDocument? d = some read ∧ read.IsSame s ∧
        (∀ name, read.protectedCache.operations.get? name =
          s.protectedCache.operations.get? name) ∧
        ∀ reason text, Document.read? text = some d → ofText reason text = .ok read := by
  refine ⟨Document.writesRecord_ofFields (s.isWritten_fields s.document), fun d written => ?_⟩
  obtain ⟨entries, record, written⟩ := written
  obtain ⟨read, reads, same⟩ := written.exists_read record
  refine ⟨read, reads, same, Table.get?_eq_of_perm same.protectedCache.operations,
    fun reason text denotes => ?_⟩
  have loads : Document.read? text >>= ofDocument? = some read := by
    rw [denotes]
    exact reads
  rw [ofText, loads]

/-- A document with the address of a Redis server, a field that does not exist, and a section
without entries.  All else has its default. -/
def sparseDocument : Document where
  root := .ofFields [
    ("redis", .ofFields [("cluster", .sequence {} [.ofNat 1]), ("url", .ofText "redis://h")]),
    ("server", .empty)]

theorem sparse_settings_load :
    let s : Settings := { redis := some { url := "redis://h" } }
    s.IsWrittenIn sparseDocument ∧
      ∃ read, Settings.ofDocument? sparseDocument = some read ∧ read.IsSame s := by
  intro s
  let d := sparseDocument
  have server : s.server.IsWritten d [] :=
    ⟨.omitted List.not_mem_nil rfl, .omitted List.not_mem_nil rfl⟩
  have redis : ({ url := "redis://h" } : RedisSettings).IsWritten d
      [("cluster", .sequence {} [.ofNat 1]), ("url", .ofText "redis://h")] :=
    ⟨.given _ (by simp) (by decide) (d.isText_ofText _), .omitted (by decide) rfl,
      .omitted (by decide) rfl⟩
  have written : s.IsWrittenIn d := by
    refine Document.writesRecord_ofFields ⟨?_, ?_, ?_, ?_, ?_⟩
    · exact .given .empty (by simp) (by decide) ⟨[], .inr ⟨rfl, none, rfl⟩, server⟩
    · exact .omitted (by decide) ⟨.omitted List.not_mem_nil rfl, .omitted List.not_mem_nil rfl⟩
    · exact .given _ List.mem_cons_self (by decide) (Document.writesMapping_ofFields redis)
    · exact .omitted (by decide) ⟨.omitted List.not_mem_nil rfl, .omitted List.not_mem_nil rfl,
        .omitted List.not_mem_nil rfl⟩
    · exact .omitted (by decide) ⟨.omitted List.not_mem_nil rfl,
        .omitted List.not_mem_nil ⟨[], .nil, .nil⟩⟩
  obtain ⟨read, reads, same, _⟩ := s.written_settings_load.2 d written
  exact ⟨written, read, reads, same⟩

end GuardedCache

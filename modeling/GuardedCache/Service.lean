import GuardedCache.Protected.Site
import GuardedCache.ServiceError
import GuardedCache.Settings.Reader
import GuardedCache.Store.Backend

/-!
# The service

The parts of the service and how settings put them together: a fleet whose
observers write the log and publish metrics, a store in memory or on a Redis
server, and the bindings of the operations.
-/

namespace GuardedCache

open Circuit Protected Store

/-- The service: a store behind the five breakers. -/
abbrev Service := Site Backend

namespace Service

/-- The breakers before any operation has one. -/
def emptyFleet (s : Settings) : Fleet where
  registry := { defaults := s.breaker, observers := [.logging, .metrics] }

/-- The store that settings ask for. -/
def backend (libraries : Redis.Libraries) (s : Settings) : Except ServiceError Backend :=
  match s.redis with
  | none => .ok (.memory {})
  | some redis =>
    match libraries.connect redis.url with
    | .ok server =>
      .ok (.redis libraries { message := redis.messageTtl, history := redis.historyTtl } server)
    | .error text => .error (.cache (.redis text))

/-- The service that settings ask for.  The five breakers are built, and the
store is reached before the bindings are looked at. -/
def build (libraries : Redis.Libraries) (s : Settings) : Except ServiceError Service := do
  let store ← backend libraries s
  let table ← s.bindings.mapError ServiceError.ofSettings
  let site : Service := { fleet := emptyFleet s, table, store }
  return site.register.2

end Service

end GuardedCache

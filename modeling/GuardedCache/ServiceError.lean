import GuardedCache.Protected.Cache
import GuardedCache.Settings.Basic

/-!
# Errors of the service

The errors that the service shows to the outside, with their texts and HTTP
status codes.  A service that is unavailable says when to try again.
-/

namespace GuardedCache

open Protected Store

/-- An error of the service. -/
inductive ServiceError where
  | config (text : String)
  | badRequest (text : String)
  /-- The service does not work at the moment. -/
  | serviceUnavailable (text : String)
  | cache (error : CacheError)
  | io (text : String)
  | internal (text : String)
deriving DecidableEq, Repr

namespace ServiceError

/-- The name of the kind of an error. -/
def kind : ServiceError → String
  | .config _ => "Config"
  | .badRequest _ => "BadRequest"
  | .serviceUnavailable _ => "ServiceUnavailable"
  | .cache _ => "Cache"
  | .io _ => "Io"
  | .internal _ => "Internal"

/-- The text of an error. -/
def message : ServiceError → String
  | .config text => "Configuration error: " ++ text
  | .badRequest text => "Bad request: " ++ text
  | .serviceUnavailable text => "Service temporarily unavailable: " ++ text
  | .cache error => "Cache error: " ++ error.message
  | .io text => "IO error: " ++ text
  | .internal text => "Internal server error: " ++ text

/-- The HTTP status code of an error. -/
def status : ServiceError → Nat
  | .badRequest _ => 400
  | .serviceUnavailable _ => 503
  | .cache (.timeout _) => 504
  | .cache _ => 502
  | .config _ => 500
  | .io _ => 500
  | .internal _ => 500

/-- The seconds after which a client may try again. -/
def retryAfter (e : ServiceError) : Option Nat :=
  if e.status = 503 then some 10 else none

/-- A write that was not done, as an error of the service. -/
def ofWrite : WriteError → ServiceError
  | .unavailable breaker => .serviceUnavailable (Circuit.Breaker.refusalText breaker)
  | .cache error => .cache error

/-- A problem of the settings, as an error of the service. -/
def ofSettings (p : SettingsProblem) : ServiceError := .config p.message

end ServiceError

end GuardedCache

import GuardedCache.Circuit.Fleet
import GuardedCache.Http.Exchange

/-!
# The admin surface

Three paths below `/api`: a list of the registered breakers, a reset of one of
them by name, and a health check.  A reset forgets the breaker, or closes it in
place if the configuration is to be kept.
-/

namespace GuardedCache.Admin

open Circuit Http

/-- What a reset asks for. -/
structure ResetRequest where
  /-- The name of the breaker. -/
  name : Option String := none
  /-- Whether its configuration is kept. -/
  keepConfig : Option Bool := none
deriving DecidableEq, Repr, Inhabited

/-- Why a query does not ask for a reset. -/
inductive QueryError where
  | duplicate (parameter : String)
  /-- A truth value is neither `true` nor `false`. -/
  | notBool
deriving DecidableEq, Repr

/-- The text of a query error. -/
def QueryError.message : QueryError → String
  | .duplicate parameter =>
    "Failed to deserialize query string: duplicate field `" ++ parameter ++ "`"
  | .notBool =>
    "Failed to deserialize query string: provided string was not `true` or `false`"

/-- The truth value that a text names. -/
def readBool (text : String) : Except QueryError Bool :=
  if text = "true" then .ok true
  else if text = "false" then .ok false
  else .error .notBool

/-- What a reset asks for after one more parameter.  Unknown parameters do not
matter. -/
def ResetRequest.add (request : ResetRequest) (parameter : String × String) :
    Except QueryError ResetRequest :=
  let (key, value) := parameter
  if key = "name" then
    if request.name.isSome then .error (.duplicate key)
    else .ok { request with name := some value }
  else if key = "keep_config" then
    if request.keepConfig.isSome then .error (.duplicate key)
    else (readBool value).map fun keep => { request with keepConfig := some keep }
  else .ok request

/-- What the parameters of a query ask for. -/
def ResetRequest.ofPairs (pairs : List (String × String)) : Except QueryError ResetRequest :=
  pairs.foldlM ResetRequest.add {}

/-- What a query asks for. -/
def ResetRequest.ofQuery (query : Option String) : Except QueryError ResetRequest :=
  ofPairs (formPairs (query.getD ""))

/-- A breaker in the list. -/
def statusOf (b : Breaker) : Json.Value :=
  .record [("name", .str b.name), ("state", b.phase.state.toJson),
    ("last_change", .str b.phase.sinceWall.writeSeconds)]

/-- The list of the registered breakers. -/
def list (f : Fleet) : Http.Response :=
  .json (Json.Value.array (f.snapshots.map statusOf)).write

/-- The health check. -/
def health : Http.Response := .plain 200 "OK"

/-- Do what a reset asks for. -/
def reset (request : ResetRequest) (f : Fleet) : Except ClockFault Http.Response × Fleet :=
  let done := Http.Response.plain 200 "Circuit breaker reset successfully"
  match request.name.filter (· ≠ "") with
  | none => (.ok (.ofError (.badRequest "Missing circuit breaker name")), f)
  | some name =>
    if request.keepConfig = some true then
      let (answer, f) := f.resetNamed name
      (answer.map fun _ => done, f)
    else (.ok done, (f.remove name).2)

/-- A response to a method of a path that can only be read. -/
def readOnly (method : String) (response : Http.Response) : Http.Response :=
  if method = "GET" then response
  else if method = "HEAD" then response.head
  else .methodNotAllowed "GET,HEAD"

/-- Respond to a request. -/
def respond (method : String) (target : Target) (f : Fleet) :
    Except ClockFault Http.Response × Fleet :=
  if target.path = "/api/circuit-breakers" then (.ok (readOnly method (list f)), f)
  else if target.path = "/api/health" then (.ok (readOnly method health), f)
  else if target.path = "/api/circuit-breakers/reset" then
    if method = "POST" then
      match ResetRequest.ofQuery target.query with
      | .ok request => reset request f
      | .error error => (.ok (.plain 400 error.message), f)
    else (.ok (.methodNotAllowed "POST"), f)
  else (.ok .notFound, f)

end GuardedCache.Admin

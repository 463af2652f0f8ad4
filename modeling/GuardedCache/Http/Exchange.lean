import GuardedCache.Http.Form
import GuardedCache.ServiceError

/-!
# HTTP requests and responses

The parts of a request that matter here are its method and the path and query
of its URI.  A response has a status, the headers that are set, and a body.
-/

namespace GuardedCache.Http

/-- The target of a request. -/
structure Target where
  path : String
  /-- The query, without its question mark. -/
  query : Option String
deriving DecidableEq, Repr

/-- A text after the scheme and the authority of an absolute URI. -/
def dropAuthority (uri : List Char) : List Char :=
  let afterScheme := uri.dropWhile (· ≠ ':')
  match uri, afterScheme with
  | '/' :: _, _ => uri
  | _, ':' :: '/' :: '/' :: rest => rest.dropWhile fun c => c ≠ '/' && c ≠ '?' && c ≠ '#'
  | _, _ => uri

/-- The target of a URI.  A fragment does not belong to it. -/
def Target.ofUri (uri : String) : Target :=
  let (beforeFragment, _) := splitFirst '#' (dropAuthority uri.toList)
  let (path, query) := splitFirst '?' beforeFragment
  { path := if path = [] then "/" else String.ofList path
    query := query.map String.ofList }

/-- A response. -/
structure Response where
  status : Nat
  /-- The type of the body. -/
  contentType : Option String := none
  /-- When to try again, in seconds. -/
  retryAfter : Option Nat := none
  /-- The methods that the path has. -/
  allow : Option String := none
  body : String := ""
deriving DecidableEq, Repr

/-- The type of a plain text. -/
def plainText : String := "text/plain; charset=utf-8"

namespace Response

/-- A plain text with a status. -/
def plain (status : Nat) (body : String) : Response where
  status
  contentType := some plainText
  body

/-- A JSON text. -/
def json (body : String) : Response where
  status := 200
  contentType := some "application/json"
  body

/-- The response to a path that does not exist. -/
def notFound : Response where
  status := 404

/-- The response to a method that a path does not have. -/
def methodNotAllowed (allow : String) : Response where
  status := 405
  allow := some allow

/-- The response that tells of an error. -/
def ofError (e : ServiceError) : Response where
  status := e.status
  contentType := some plainText
  retryAfter := e.retryAfter
  body := e.message

/-- The response without its body. -/
def head (r : Response) : Response := { r with body := "" }

end Response

end GuardedCache.Http

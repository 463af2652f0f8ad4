import GuardedCache.Store.Redis

/-!
# Backends

A backend is a store in memory or on a Redis server.
-/

namespace GuardedCache.Store

/-- A store of one of two kinds. -/
inductive Backend where
  | memory (store : Memory)
  /-- A store on a server. -/
  | redis (libraries : Redis.Libraries) (lifetimes : Lifetimes) (server : Redis.Server)

namespace Backend

/-- Answer a request.  A scripted reply is given by a server only. -/
def answer (b : Backend) (request : Request) (scripted : Option Redis.Reply := none) :
    Except CacheError Response × Backend :=
  match b with
  | .memory store =>
    let (response, store) := store.answer request
    (.ok response, .memory store)
  | .redis libraries lifetimes server =>
    let (result, server) := Redis.answer libraries lifetimes server request scripted
    (result, .redis libraries lifetimes server)

/-- The commands that were sent to a server. -/
def commands : Backend → List Redis.Command
  | .memory _ => []
  | .redis _ _ server => server.received

end Backend

end GuardedCache.Store

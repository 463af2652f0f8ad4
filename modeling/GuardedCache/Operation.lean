/-!
# Cache operations

The five operations of the message cache.  Each is guarded by a breaker of its
own, known by a fixed name.
-/

namespace GuardedCache

/-- An operation of the message cache. -/
inductive Operation where
  | setMessage
  | getMessage
  | deleteMessage
  /-- Store the history of a chat. -/
  | setChatMessages
  /-- Look the history of a chat up. -/
  | getChatMessages
deriving DecidableEq, Repr, Inhabited

namespace Operation

/-- Every operation. -/
def all : List Operation :=
  [.setMessage, .getMessage, .deleteMessage, .setChatMessages, .getChatMessages]

/-- The name of the breaker that guards an operation. -/
def breakerName : Operation → String
  | .setMessage => "redis-set-message"
  | .getMessage => "redis-get-message"
  | .deleteMessage => "redis-delete-message"
  | .setChatMessages => "redis-set-chat-messages"
  | .getChatMessages => "redis-get-chat-messages"

/-- The operation that the breaker with a name guards. -/
def ofBreakerName? (name : String) : Option Operation :=
  all.find? fun operation => operation.breakerName = name

theorem mem_all (operation : Operation) : operation ∈ all := by
  cases operation <;> decide

theorem ofBreakerName?_breakerName (operation : Operation) :
    ofBreakerName? operation.breakerName = some operation := by
  cases operation <;> decide

theorem breakerName_injective {a b : Operation} (h : a.breakerName = b.breakerName) :
    a = b := by
  have same := ofBreakerName?_breakerName a
  rw [h, ofBreakerName?_breakerName b] at same
  exact (Option.some.inj same).symm

end Operation

end GuardedCache

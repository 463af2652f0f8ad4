import GuardedCache.Message
import GuardedCache.Operation
import GuardedCache.Time.Duration

/-!
# Requests to a message store

A request is a call of one of the five operations with its arguments, and a
response is what a store answers.  A key that a store does not have is a
response and not an error.
-/

namespace GuardedCache.Store

/-- A call of an operation. -/
inductive Request where
  /-- Store a message under its own id. -/
  | setMessage (message : Message)
  /-- Look up the message with an id. -/
  | getMessage (id : String)
  /-- Forget the message with an id. -/
  | deleteMessage (id : String)
  /-- Store the history of a chat. -/
  | setChatMessages (chatId : String) (messages : List Message)
  /-- Look up the history of a chat. -/
  | getChatMessages (chatId : String)
deriving DecidableEq, Repr

/-- The operation that a request calls. -/
def Request.operation : Request → Operation
  | .setMessage _ => .setMessage
  | .getMessage _ => .getMessage
  | .deleteMessage _ => .deleteMessage
  | .setChatMessages _ _ => .setChatMessages
  | .getChatMessages _ => .getChatMessages

/-- What a store answers. -/
inductive Response where
  | done
  /-- The message that was looked up, if there is one. -/
  | message (found : Option Message)
  /-- The history that was looked up, if there is one. -/
  | history (found : Option (List Message))
deriving DecidableEq, Repr

/-- Why a store could not answer. -/
inductive CacheError where
  /-- The server could not be reached, refused, or sent something unexpected. -/
  | redis (text : String)
  /-- A stored text is not what it should be. -/
  | serialization (text : String)
  | timeout (deadline : Duration)
  /-- The store failed in its own way. -/
  | backend (text : String)
deriving DecidableEq, Repr

/-- The text of an error. -/
def CacheError.message : CacheError → String
  | .redis text => "Redis error: " ++ text
  | .serialization text => "Serialization error: " ++ text
  | .timeout deadline => "Cache operation timed out after " ++ deadline.text
  | .backend text => "Cache backend error: " ++ text

/-- The key of a message. -/
def messageKey (id : String) : String := "message:" ++ id

/-- The key of the history of a chat. -/
def historyKey (chatId : String) : String := "chat:" ++ chatId ++ ":messages"

end GuardedCache.Store

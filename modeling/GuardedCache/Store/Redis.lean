import GuardedCache.Store.Location
import GuardedCache.Store.Memory

/-!
# The store on a Redis server

Each request is one command; messages and histories are stored as JSON texts
that expire.  `Server` is a server that keeps what it is given, and `interpret`
turns its reply into a response.  How a server is reached, and what is said when
something goes wrong with it, is up to `Libraries`.
-/

namespace GuardedCache.Store.Redis

/-- A command to a server. -/
inductive Command where
  /-- Store a text under a key for some seconds. -/
  | setEx (key : String) (seconds : Nat) (text : String)
  /-- Look the text of a key up. -/
  | get (key : String)
  | del (key : String)
deriving DecidableEq, Repr

/-- A command as the words that are sent. -/
def Command.words : Command → List String
  | .setEx key seconds text => ["SETEX", key, toString seconds, text]
  | .get key => ["GET", key]
  | .del key => ["DEL", key]

/-- A reply of a server. -/
inductive Reply where
  /-- The server refuses, and says why. -/
  | failure (text : String)
  /-- A string, or none if its bytes are no text. -/
  | bulk (text : Option String)
  | status (text : String)
  | integer (value : Int)
  | nil
  | emptyArray
deriving DecidableEq, Repr

/-- A server that keeps every text that it is given. -/
structure Server where
  texts : Table String String := .empty
  /-- The commands that it received, in order. -/
  received : List Command := []

namespace Server

/-- What a server that keeps texts does with them, and its reply. -/
def execute (texts : Table String String) : Command → Reply × Table String String
  | .setEx key _ text => (.status "OK", texts.insert key text)
  | .get key =>
    match texts.get? key with
    | some text => (.bulk (some text), texts)
    | none => (.nil, texts)
  | .del key => (.integer (if (texts.get? key).isSome then 1 else 0), texts.erase key)

/-- Receive a command.  A scripted reply stands for whatever the server would
do. -/
def receive (s : Server) (command : Command) (scripted : Option Reply) : Reply × Server :=
  let s := { s with received := s.received ++ [command] }
  match scripted with
  | some reply => (reply, s)
  | none =>
    let (reply, texts) := execute s.texts command
    (reply, { s with texts })

end Server

/-- What the store leaves to others: to reach a server, and to find the words for what
went wrong. -/
structure Libraries where
  /-- The server at a URL, or what is said if it cannot be reached. -/
  connect : String → Except String Server
  /-- What is said of a reply that is of no use. -/
  replyText : Reply → String
  /-- What is said of a text that an operation cannot read. -/
  jsonText : Operation → String → String

/-- Libraries that reach one server, a new one at an address of which they use any
database.  They repeat what a server says, and find no words of their own. -/
def Libraries.ofAddress (address : String) : Libraries where
  connect url :=
    if (Location.ofUrl? url).any fun location => location.base = address then .ok {}
    else .error ""
  replyText
    | .failure text => text
    | _ => ""
  jsonText _ _ := ""

/-- The seconds for which an entry is stored: whole ones, and at least one. -/
def secondsToLive (lifetime : Duration) : Nat := max lifetime.wholeSeconds 1

/-- The command of a request. -/
def command (lifetimes : Lifetimes) : Request → Command
  | .setMessage message =>
    .setEx (messageKey message.id) (secondsToLive lifetimes.message) message.encode
  | .getMessage id => .get (messageKey id)
  | .deleteMessage id => .del (messageKey id)
  | .setChatMessages chatId messages =>
    .setEx (historyKey chatId) (secondsToLive lifetimes.history) (Message.encodeList messages)
  | .getChatMessages chatId => .get (historyKey chatId)

/-- The text that a reply to a lookup holds, if the key was found. -/
def foundText (libraries : Libraries) : Reply → Except CacheError (Option String)
  | .bulk (some text) => .ok (some text)
  | .status text => .ok (some text)
  | .nil => .ok none
  | reply => .error (.redis (libraries.replyText reply))

/-- What a text that was found denotes, or what is said if it denotes nothing. -/
def decodeFound {α : Type} (decode : String → Option α) (problem : String → String) :
    Option String → Except CacheError (Option α)
  | none => .ok none
  | some text =>
    match decode text with
    | some value => .ok (some value)
    | none => .error (.serialization (problem text))

/-- Whether a write was done: any reply but a failure says so. -/
def written (libraries : Libraries) : Reply → Except CacheError Response
  | .failure text => .error (.redis (libraries.replyText (.failure text)))
  | _ => .ok .done

/-- The response that a reply means. -/
def interpret (libraries : Libraries) : Request → Reply → Except CacheError Response
  | .setMessage _, reply => written libraries reply
  | .deleteMessage _, reply => written libraries reply
  | .setChatMessages _ _, reply => written libraries reply
  | .getMessage _, reply => do
    let found ← foundText libraries reply
    let message ← decodeFound Message.decode? (libraries.jsonText .getMessage) found
    return .message message
  | .getChatMessages _, reply => do
    let found ← foundText libraries reply
    let history ← decodeFound Message.decodeList? (libraries.jsonText .getChatMessages) found
    return .history history

/-- Answer a request with the help of a server. -/
def answer (libraries : Libraries) (lifetimes : Lifetimes) (server : Server) (request : Request)
    (scripted : Option Reply := none) : Except CacheError Response × Server :=
  let (reply, server) := server.receive (command lifetimes request) scripted
  (interpret libraries request reply, server)

/-- The store for a diagnostic listing. -/
def describe (lifetimes : Lifetimes) : String :=
  "RedisMessageCache \x7b connection: \x22<redis::aio::ConnectionManager>\x22, message_ttl: " ++
    lifetimes.message.text ++ ", chat_messages_ttl: " ++ lifetimes.history.text ++ " \x7d"

end GuardedCache.Store.Redis

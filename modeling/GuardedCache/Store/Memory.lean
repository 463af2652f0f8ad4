import GuardedCache.Store.Request
import GuardedCache.Table

/-!
# The store in memory

Messages and histories in two tables.  A store without capacity keeps nothing,
and an entry whose time to live is zero is gone at once; no other entry is ever
lost, so that a capacity above zero is never enforced.
-/

namespace GuardedCache.Store

/-- The greatest time to live: a thousand years of 365 days. -/
def maxTimeToLive : Duration := .ofSeconds 31536000000

/-- What is said of a longer time to live. -/
def timeToLiveText : String := "time_to_live is longer than 1000 years"

/-- How long the entries of a store live. -/
structure Lifetimes where
  /-- The time to live of a message. -/
  message : Duration := .ofSeconds 86400
  /-- The time to live of a history. -/
  history : Duration := .ofSeconds 3600
deriving DecidableEq, Repr, Inhabited

/-- Whether a store in memory can have these lifetimes. -/
def Lifetimes.isSupported (l : Lifetimes) : Bool :=
  l.message ≤ maxTimeToLive && l.history ≤ maxTimeToLive

/-- The capacity of a store when none is given. -/
def Memory.defaultCapacity : Nat := 10000

/-- A store in memory. -/
structure Memory where
  lifetimes : Lifetimes := {}
  /-- How many messages, and how many histories, there is meant to be room for. -/
  capacity : Nat := Memory.defaultCapacity
  messages : Table String Message := .empty
  histories : Table String (List Message) := .empty

namespace Memory

/-- An empty store of a capacity whose entries live for given times, or what is
said if it cannot have them. -/
def ofLifetimes (lifetimes : Lifetimes) (capacity : Nat := defaultCapacity) :
    Except String Memory :=
  if lifetimes.isSupported then .ok { lifetimes, capacity } else .error timeToLiveText

/-- Whether the store keeps entries that live for a while. -/
def keeps (m : Memory) (lifetime : Duration) : Bool :=
  m.capacity ≠ 0 && lifetime ≠ .zero

/-- What is found under a key in a table whose entries live for a while. -/
def lookup {α : Type} (m : Memory) (lifetime : Duration) (table : Table String α)
    (key : String) : Option α :=
  if m.keeps lifetime then table.get? key else none

/-- Answer a request. -/
def answer (m : Memory) : Request → Response × Memory
  | .setMessage message =>
    (.done, { m with messages := m.messages.insert (messageKey message.id) message })
  | .getMessage id => (.message (m.lookup m.lifetimes.message m.messages (messageKey id)), m)
  | .deleteMessage id =>
    (.done, { m with messages := m.messages.erase (messageKey id) })
  | .setChatMessages chatId messages =>
    (.done, { m with histories := m.histories.insert (historyKey chatId) messages })
  | .getChatMessages chatId =>
    (.history (m.lookup m.lifetimes.history m.histories (historyKey chatId)), m)

end Memory

end GuardedCache.Store

import GuardedCache.Json.Reader
import GuardedCache.Json.Writer
import GuardedCache.Time.Rfc3339

/-!
# Chat messages

A message and its JSON text.  Writing gives an object with five members in a
fixed order.  Reading takes the members in any order and ignores others, but a
member of the five may not repeat; an array of the five values is read as
well.
-/

namespace GuardedCache

/-- A chat message. -/
structure Message where
  /-- What it is known by. -/
  id : String
  /-- The chat that it belongs to. -/
  chatId : String
  senderId : String
  content : String
  createdAt : Timestamp
deriving DecidableEq, Repr

namespace Message

/-- A message as a JSON value. -/
def toJson (m : Message) : Json.Value :=
  .record [("id", .str m.id), ("chat_id", .str m.chatId), ("sender_id", .str m.senderId),
    ("content", .str m.content), ("created_at", .str m.createdAt.write)]

/-- A message from the values of its five members. -/
def ofValues? (id chatId senderId content createdAt : Json.Value) : Option Message := do
  let createdAt ← Timestamp.read? (← createdAt.text?)
  return ⟨← id.text?, ← chatId.text?, ← senderId.text?, ← content.text?, createdAt⟩

/-- The value of the only member with a name. -/
def onlyNamed? (members : List (Json.Text × Json.Value)) (name : String) :
    Option Json.Value :=
  match Json.Value.membersNamed members name with
  | [value] => some value
  | _ => none

/-- A message from a JSON value. -/
def ofJson? : Json.Value → Option Message
  | .object members =>
    if members.all fun (name, _) => name.isSome then do
      ofValues? (← onlyNamed? members "id") (← onlyNamed? members "chat_id")
        (← onlyNamed? members "sender_id") (← onlyNamed? members "content")
        (← onlyNamed? members "created_at")
    else none
  | .array [id, chatId, senderId, content, createdAt] =>
    ofValues? id chatId senderId content createdAt
  | _ => none

/-- A list of messages from a JSON value. -/
def listOfJson? : Json.Value → Option (List Message)
  | .array items => items.mapM ofJson?
  | _ => none

/-- The JSON text of a message. -/
def encode (m : Message) : String := m.toJson.write

/-- The JSON text of a list of messages. -/
def encodeList (messages : List Message) : String :=
  (Json.Value.array (messages.map toJson)).write

/-- A message from its JSON text. -/
def decode? (text : String) : Option Message := do
  ofJson? (← Json.read? text)

/-- A list of messages from its JSON text. -/
def decodeList? (text : String) : Option (List Message) := do
  listOfJson? (← Json.read? text)

end Message

end GuardedCache

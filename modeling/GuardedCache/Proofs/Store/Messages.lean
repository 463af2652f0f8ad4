import GuardedCache.Proofs.Json.RoundTrip
import GuardedCache.Proofs.Time.RoundTrip
import GuardedCache.Store.Redis

/-!
# Stored messages read back

A server stores messages and histories as JSON texts.  `stored_texts_read_back`
says that these texts denote what was stored, whatever characters are in the
strings of a message and whatever moment it was created at.
-/

namespace GuardedCache

open Json

namespace Message

theorem isNumberFree_toJson (m : Message) : m.toJson.IsNumberFree :=
  ⟨trivial, trivial, trivial, trivial, trivial, trivial⟩

theorem areNumberFree_map_toJson (messages : List Message) :
    AreNumberFree (messages.map toJson) := by
  induction messages with
  | nil => trivial
  | cons m rest ih => exact ⟨m.isNumberFree_toJson, ih⟩

theorem ofJson?_toJson (m : Message) : ofJson? m.toJson = some m := by
  have moment : Timestamp.read? m.createdAt.write = some m.createdAt := m.createdAt.read?_write
  have members : ofJson? m.toJson = ofValues? (.str m.id) (.str m.chatId) (.str m.senderId)
      (.str m.content) (.str m.createdAt.write) := by
    simp [toJson, Value.record, ofJson?, onlyNamed?, Value.membersNamed]
  rw [members]
  simp [ofValues?, Value.str, Value.text?, moment]

theorem mapM_ofJson?_map_toJson (messages : List Message) :
    (messages.map toJson).mapM ofJson? = some messages := by
  induction messages with
  | nil => rfl
  | cons m rest ih => simp [ofJson?_toJson, ih]

theorem decode?_encode (m : Message) : decode? m.encode = some m := by
  rw [decode?, encode, Json.read?_write m.isNumberFree_toJson, Option.bind_eq_bind,
    Option.bind_some, ofJson?_toJson]

theorem decodeList?_encodeList (messages : List Message) :
    decodeList? (encodeList messages) = some messages := by
  have free : (Value.array (messages.map toJson)).IsNumberFree :=
    areNumberFree_map_toJson messages
  rw [decodeList?, encodeList, Json.read?_write free, Option.bind_eq_bind, Option.bind_some]
  exact mapM_ofJson?_map_toJson messages

/-- The canonical text of the message that a text denotes. -/
def recode? (text : String) : Option String := (decode? text).map encode

def recodeList? (text : String) : Option String := (decodeList? text).map encodeList

theorem decode?_recode? (text : String) : (recode? text).bind decode? = decode? text := by
  rw [recode?]
  cases decode? text with
  | none => rfl
  | some m => rw [Option.map_some, Option.bind_some, decode?_encode]

theorem decodeList?_recodeList? (text : String) :
    (recodeList? text).bind decodeList? = decodeList? text := by
  rw [recodeList?]
  cases decodeList? text with
  | none => rfl
  | some messages => rw [Option.map_some, Option.bind_some, decodeList?_encodeList]

/-- A canonical text is its own canonical text. -/
theorem recode?_recode? (text : String) : (recode? text).bind recode? = recode? text :=
  calc (recode? text).bind recode?
      = ((recode? text).bind decode?).map encode := Option.map_bind.symm
    _ = recode? text := congrArg (Option.map encode) (decode?_recode? text)

theorem recodeList?_recodeList? (text : String) :
    (recodeList? text).bind recodeList? = recodeList? text :=
  calc (recodeList? text).bind recodeList?
      = ((recodeList? text).bind decodeList?).map encodeList := Option.map_bind.symm
    _ = recodeList? text := congrArg (Option.map encodeList) (decodeList?_recodeList? text)

end Message

namespace Store.Redis

/-- A server keeps the text that it is given under its key. -/
theorem texts_of_setEx (libraries : Libraries) {lifetimes : Lifetimes} {request : Request}
    {key text : String}
    {seconds : Nat} (stores : command lifetimes request = .setEx key seconds text)
    (server : Server) :
    (answer libraries lifetimes server request).2.texts = server.texts.insert key text := by
  rw [answer, stores]
  rfl

theorem get?_of_setEx (libraries : Libraries) {lifetimes : Lifetimes} {request : Request}
    {key text : String} {seconds : Nat}
    (stores : command lifetimes request = .setEx key seconds text) (server : Server) :
    (answer libraries lifetimes server request).2.texts.get? key = some text := by
  rw [texts_of_setEx libraries stores, Table.get?_insert, if_pos rfl]

/-- The texts that a server stores denote the messages and histories that it was
given.  The canonical text of what any text denotes, such as one that was stored
by someone else, denotes the same and is its own canonical text. -/
theorem stored_texts_read_back (libraries : Libraries) (lifetimes : Lifetimes)
    (server : Server) :
    (∀ m : Message,
      ((answer libraries lifetimes server (.setMessage m)).2.texts.get? (messageKey m.id)).bind
        Message.decode? = some m) ∧
    (∀ (chatId : String) (messages : List Message),
      ((answer libraries lifetimes server (.setChatMessages chatId messages)).2.texts.get?
        (historyKey chatId)).bind Message.decodeList? = some messages) ∧
    (∀ text : String,
      (Message.recode? text).bind Message.decode? = Message.decode? text ∧
        (Message.recode? text).bind Message.recode? = Message.recode? text) ∧
    ∀ text : String,
      (Message.recodeList? text).bind Message.decodeList? = Message.decodeList? text ∧
        (Message.recodeList? text).bind Message.recodeList? = Message.recodeList? text := by
  refine ⟨fun m => ?_, fun chatId messages => ?_, fun text => ?_, fun text => ?_⟩
  · rw [get?_of_setEx libraries rfl, Option.bind_some]
    exact m.decode?_encode
  · rw [get?_of_setEx libraries rfl, Option.bind_some]
    exact Message.decodeList?_encodeList messages
  · exact ⟨Message.decode?_recode? text, Message.recode?_recode? text⟩
  · exact ⟨Message.decodeList?_recodeList? text, Message.recodeList?_recodeList? text⟩

end Store.Redis

end GuardedCache

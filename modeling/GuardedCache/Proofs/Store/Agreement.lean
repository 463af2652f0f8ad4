import GuardedCache.Proofs.Store.Messages
import GuardedCache.Store.Backend

/-!
# Backends agree

What a store should answer is told by the requests before: a lookup finds what
was stored last under the same id and not deleted since.  `backends_agree` says
that a store in memory and a store on a server, both empty at first, answer so to
every list of requests.  A server has one table for messages and histories; the
forms of the keys keep the two apart, whatever the ids are.
-/

namespace GuardedCache.Store

/-! ## Keys -/

theorem messageKey_inj {id other : String} : messageKey id = messageKey other ↔ id = other :=
  String.append_right_inj "message:"

theorem historyKey_inj {chatId other : String} :
    historyKey chatId = historyKey other ↔ chatId = other :=
  (String.append_left_inj ":messages").trans (String.append_right_inj "chat:")

/-- The keys of messages and of histories differ in their first character. -/
theorem messageKey_ne_historyKey (id chatId : String) : messageKey id ≠ historyKey chatId := by
  intro same
  have first := congrArg (fun key => key.toList.head?) same
  simp [messageKey, historyKey] at first

/-! ## What should be answered -/

/-- The message that was stored last under an id and not deleted since, where
`past` lists the requests so far, the last one first. -/
def lastMessage (id : String) : List Request → Option Message
  | [] => none
  | .setMessage m :: past => if id = m.id then some m else lastMessage id past
  | .deleteMessage other :: past => if id = other then none else lastMessage id past
  | _ :: past => lastMessage id past

/-- The history that was stored last for a chat. -/
def lastHistory (chatId : String) : List Request → Option (List Message)
  | [] => none
  | .setChatMessages other messages :: past =>
    if chatId = other then some messages else lastHistory chatId past
  | _ :: past => lastHistory chatId past

/-- What should be answered to a request after earlier ones. -/
def dueAnswer (past : List Request) : Request → Response
  | .getMessage id => .message (lastMessage id past)
  | .getChatMessages chatId => .history (lastHistory chatId past)
  | _ => .done

/-- What should be answered to requests that come one after the other. -/
def dueAnswers (past : List Request) : List Request → List Response
  | [] => []
  | request :: rest => dueAnswer past request :: dueAnswers (request :: past) rest

/-! ## What a backend holds -/

namespace Memory

/-- The tables hold what was stored last, and no entry is gone at once. -/
structure Holds (past : List Request) (m : Memory) : Prop where
  messages (id : String) : m.messages.get? (messageKey id) = lastMessage id past
  histories (chatId : String) : m.histories.get? (historyKey chatId) = lastHistory chatId past
  keepsMessages : m.keeps m.lifetimes.message = true
  keepsHistories : m.keeps m.lifetimes.history = true

variable {past : List Request} {m : Memory}

theorem Holds.answer (h : m.Holds past) (request : Request) :
    (m.answer request).1 = dueAnswer past request ∧
      (m.answer request).2.Holds (request :: past) := by
  cases request with
  | setMessage message =>
    refine ⟨rfl, ?_, h.histories, h.keepsMessages, h.keepsHistories⟩
    intro id
    rw [Memory.answer, lastMessage, Table.get?_insert, h.messages id]
    simp only [messageKey_inj]
  | getMessage id =>
    refine ⟨?_, h.messages, h.histories, h.keepsMessages, h.keepsHistories⟩
    rw [Memory.answer, lookup, if_pos h.keepsMessages, h.messages id, dueAnswer]
  | deleteMessage other =>
    refine ⟨rfl, ?_, h.histories, h.keepsMessages, h.keepsHistories⟩
    intro id
    rw [Memory.answer, lastMessage, Table.get?_erase, h.messages id]
    simp only [messageKey_inj]
  | setChatMessages other messages =>
    refine ⟨rfl, h.messages, ?_, h.keepsMessages, h.keepsHistories⟩
    intro chatId
    rw [Memory.answer, lastHistory, Table.get?_insert, h.histories chatId]
    simp only [historyKey_inj]
  | getChatMessages chatId =>
    refine ⟨?_, h.messages, h.histories, h.keepsMessages, h.keepsHistories⟩
    rw [Memory.answer, lookup, if_pos h.keepsHistories, h.histories chatId, dueAnswer]

end Memory

namespace Redis

/-- The texts of a server are those of what was stored last. -/
structure Holds (past : List Request) (server : Server) : Prop where
  messages (id : String) :
    server.texts.get? (messageKey id) = (lastMessage id past).map Message.encode
  histories (chatId : String) :
    server.texts.get? (historyKey chatId) = (lastHistory chatId past).map Message.encodeList

variable {past : List Request} {server : Server} (libraries : Libraries)

/-- A server that is asked for a key leaves its texts alone. -/
theorem answer_of_get (lifetimes : Lifetimes) (request : Request) {key : String}
    (asks : command lifetimes request = .get key) (server : Server) :
    (answer libraries lifetimes server request).1 =
        interpret libraries request
          ((server.texts.get? key).elim .nil fun text => .bulk (some text)) ∧
      (answer libraries lifetimes server request).2.texts = server.texts := by
  rw [answer, asks]
  simp only [Server.receive, Server.execute]
  cases server.texts.get? key <;> exact ⟨rfl, rfl⟩

theorem foundText_elim (found : Option String) :
    foundText libraries (found.elim .nil fun text => .bulk (some text)) = .ok found := by
  cases found <;> rfl

theorem decodeFound_map {α : Type} {decode : String → Option α} {encode : α → String}
    (reads : ∀ value, decode (encode value) = some value) (problem : String → String)
    (found : Option α) : decodeFound decode problem (found.map encode) = .ok found := by
  cases found with
  | none => rfl
  | some value => simp only [Option.map_some, decodeFound, reads]

theorem interpret_getMessage (id : String) (found : Option Message) :
    interpret libraries (.getMessage id)
        ((found.map Message.encode).elim .nil fun text => .bulk (some text)) =
      .ok (.message found) := by
  simp only [interpret, foundText_elim, decodeFound_map Message.decode?_encode, bind, Except.bind,
    pure, Except.pure]

theorem interpret_getChatMessages (chatId : String) (found : Option (List Message)) :
    interpret libraries (.getChatMessages chatId)
        ((found.map Message.encodeList).elim .nil fun text => .bulk (some text)) =
      .ok (.history found) := by
  simp only [interpret, foundText_elim, decodeFound_map Message.decodeList?_encodeList, bind,
    Except.bind, pure, Except.pure]

theorem Holds.of_texts (h : Holds past server) {after : Server}
    (texts : after.texts = server.texts) : Holds past after where
  messages id := by rw [texts, h.messages id]
  histories chatId := by rw [texts, h.histories chatId]

theorem Holds.answer (h : Holds past server) (lifetimes : Lifetimes) (request : Request) :
    (answer libraries lifetimes server request).1 = .ok (dueAnswer past request) ∧
      Holds (request :: past) (answer libraries lifetimes server request).2 := by
  cases request with
  | setMessage m =>
    have texts : (Redis.answer libraries lifetimes server (.setMessage m)).2.texts =
        server.texts.insert (messageKey m.id) m.encode := texts_of_setEx libraries rfl server
    refine ⟨rfl, fun id => ?_, fun chatId => ?_⟩
    · rw [texts, Table.get?_insert, h.messages id, lastMessage]
      simp only [messageKey_inj]
      split <;> rfl
    · rw [texts, Table.get?_insert, if_neg (messageKey_ne_historyKey m.id chatId).symm]
      exact h.histories chatId
  | getMessage id =>
    obtain ⟨reply, texts⟩ := answer_of_get libraries lifetimes (.getMessage id) rfl server
    have holds := h.of_texts texts
    refine ⟨?_, holds.messages, holds.histories⟩
    rw [reply, h.messages id, interpret_getMessage, dueAnswer]
  | deleteMessage other =>
    have texts : (Redis.answer libraries lifetimes server (.deleteMessage other)).2.texts =
        server.texts.erase (messageKey other) := rfl
    refine ⟨rfl, fun id => ?_, fun chatId => ?_⟩
    · rw [texts, Table.get?_erase, h.messages id, lastMessage]
      simp only [messageKey_inj]
      split <;> rfl
    · rw [texts, Table.get?_erase, if_neg (messageKey_ne_historyKey other chatId).symm]
      exact h.histories chatId
  | setChatMessages other messages =>
    have texts :
        (Redis.answer libraries lifetimes server (.setChatMessages other messages)).2.texts =
          server.texts.insert (historyKey other) (Message.encodeList messages) :=
      texts_of_setEx libraries rfl server
    refine ⟨rfl, fun id => ?_, fun chatId => ?_⟩
    · rw [texts, Table.get?_insert, if_neg (messageKey_ne_historyKey id other)]
      exact h.messages id
    · rw [texts, Table.get?_insert, h.histories chatId, lastHistory]
      simp only [historyKey_inj]
      split <;> rfl
  | getChatMessages chatId =>
    obtain ⟨reply, texts⟩ := answer_of_get libraries lifetimes (.getChatMessages chatId) rfl server
    have holds := h.of_texts texts
    refine ⟨?_, holds.messages, holds.histories⟩
    rw [reply, h.histories chatId, interpret_getChatMessages, dueAnswer]

end Redis

namespace Backend

/-- The answers to requests that come one after the other. -/
def answers (b : Backend) : List Request → List (Except CacheError Response)
  | [] => []
  | request :: rest => (b.answer request).1 :: (b.answer request).2.answers rest

/-- A backend holds what was stored last. -/
def Holds (past : List Request) : Backend → Prop
  | .memory m => m.Holds past
  | .redis _ _ server => Redis.Holds past server

variable {past : List Request} {b : Backend}

theorem Holds.answer (h : b.Holds past) (request : Request) :
    (b.answer request).1 = .ok (dueAnswer past request) ∧
      (b.answer request).2.Holds (request :: past) := by
  cases b with
  | memory m =>
    obtain ⟨answer, holds⟩ := Memory.Holds.answer h request
    exact ⟨congrArg Except.ok answer, holds⟩
  | redis libraries lifetimes server => exact Redis.Holds.answer libraries h lifetimes request

theorem Holds.answers (h : b.Holds past) (requests : List Request) :
    b.answers requests = (dueAnswers past requests).map .ok := by
  induction requests generalizing past b with
  | nil => rfl
  | cons request rest ih =>
    obtain ⟨answer, holds⟩ := h.answer request
    rw [Backend.answers, answer, ih holds]
    rfl

/-- A store on a server and a store in memory that are both empty give the same
answers to every list of requests: a lookup finds what was stored last under the
same id and not deleted since, and nothing else is ever found or goes wrong. -/
theorem backends_agree (libraries : Redis.Libraries) (onServer inMemory : Lifetimes)
    {capacity : Nat} (room : capacity ≠ 0) (messages : inMemory.message ≠ .zero)
    (histories : inMemory.history ≠ .zero) (requests : List Request) :
    (Backend.redis libraries onServer {}).answers requests =
        (Backend.memory { lifetimes := inMemory, capacity }).answers requests ∧
      (Backend.redis libraries onServer {}).answers requests =
        (dueAnswers [] requests).map .ok := by
  have server : (Backend.redis libraries onServer {}).Holds [] := ⟨fun _ => rfl, fun _ => rfl⟩
  have memory : (Backend.memory { lifetimes := inMemory, capacity }).Holds [] := by
    refine ⟨fun _ => rfl, fun _ => rfl, ?_, ?_⟩
    · simp [Memory.keeps, room, messages]
    · simp [Memory.keeps, room, histories]
  exact ⟨(server.answers requests).trans (memory.answers requests).symm, server.answers requests⟩

/-- A message and a history under one id do not get in each other's way. -/
theorem backends_agree_under_one_id :
    let leapSecond : Timestamp := ⟨⟨2016, 12, 31, by decide⟩, ⟨23, 59, 60, 0, by decide⟩⟩
    let m : Message := ⟨"a:messages", "a", "b", "", leapSecond⟩
    let requests := [.setMessage m, .setChatMessages m.id [m, m], .deleteMessage "a",
      .getMessage m.id, .deleteMessage m.id, .getMessage m.id, .getChatMessages m.id]
    let answers := [.done, .done, .done, .message (some m), .done, .message none,
      .history (some [m, m])]
    (Backend.redis (.ofAddress "redis://localhost") {} {}).answers requests = answers.map .ok ∧
      (Backend.memory { capacity := 1 }).answers requests = answers.map .ok := by
  intro leapSecond m requests answers
  obtain ⟨same, recalled⟩ := backends_agree (.ofAddress "redis://localhost") {} {}
    (by decide : 1 ≠ 0) (by decide) (by decide) requests
  have expected : dueAnswers [] requests = answers := by
    simp [dueAnswers, dueAnswer, lastMessage, lastHistory, requests, answers, m]
  rw [expected] at recalled
  exact ⟨recalled, same.symm.trans recalled⟩

end Backend

end GuardedCache.Store

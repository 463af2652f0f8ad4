import GuardedCache.Proofs.Circuit.Conservation
import GuardedCache.Proofs.Circuit.Registration
import GuardedCache.Protected.Site
import GuardedCache.Store.Backend

/-!
# What a protected call comes to

A call of a protected cache either reaches the store once and reports one
outcome to the breaker of its operation, or is refused and reaches nothing.
`call_classified` says which of the two it is, and what the caller gets, for every
store, every state of the breakers and any time that the store may take.
-/

namespace GuardedCache

open Circuit Store

/-! ## Stores of any kind -/

namespace Store

/-- A response is of the kind that an operation has. -/
def Response.Fits (response : Response) : Operation → Prop
  | .getMessage => ∃ found, response = .message found
  | .getChatMessages => ∃ found, response = .history found
  | _ => response = .done

/-- A store of messages: what it answers to a request, and what it has in it
afterwards. -/
structure MessageStore (σ : Type) where
  answer : Request → σ → Except CacheError Response × σ
  fits : ∀ request state response,
    (answer request state).1 = .ok response → response.Fits request.operation

theorem Memory.fits_answer (m : Memory) (request : Request) :
    (m.answer request).1.Fits request.operation := by
  cases request with
  | getMessage id => exact ⟨_, rfl⟩
  | getChatMessages chatId => exact ⟨_, rfl⟩
  | _ => rfl

theorem exists_of_bind_eq_ok {ε α β : Type} {x : Except ε α} {f : α → Except ε β} {value : β}
    (done : x >>= f = .ok value) : ∃ a, x = .ok a ∧ f a = .ok value := by
  cases x with
  | error e => cases done
  | ok a => exact ⟨a, rfl, done⟩

theorem Redis.fits_written {libraries : Libraries} {reply : Reply} {response : Response}
    (answered : written libraries reply = .ok response) : response = .done := by
  cases reply <;> cases answered <;> rfl

theorem Redis.fits_interpret {libraries : Libraries} {request : Request} {reply : Reply}
    {response : Response} (answered : interpret libraries request reply = .ok response) :
    response.Fits request.operation := by
  cases request with
  | setMessage m => exact fits_written answered
  | deleteMessage id => exact fits_written answered
  | setChatMessages chatId messages => exact fits_written answered
  | getMessage id =>
    obtain ⟨text, _, rest⟩ := exists_of_bind_eq_ok answered
    obtain ⟨found, _, same⟩ := exists_of_bind_eq_ok rest
    cases same
    exact ⟨found, rfl⟩
  | getChatMessages chatId =>
    obtain ⟨text, _, rest⟩ := exists_of_bind_eq_ok answered
    obtain ⟨found, _, same⟩ := exists_of_bind_eq_ok rest
    cases same
    exact ⟨found, rfl⟩

/-- A memory or a server as a store; the server may send any reply. -/
def Backend.messageStore (scripted : Option Redis.Reply) : MessageStore Backend where
  answer request b := b.answer request scripted
  fits request b response answered := by
    cases b with
    | memory m =>
      cases answered
      exact m.fits_answer request
    | redis libraries lifetimes server => exact Redis.fits_interpret answered

end Store

namespace Protected

/-! ## What the caller gets -/

namespace Answer

/-- The answer of an operation by what its store gave, which is nothing if the
store was not asked. -/
def ofGiven (operation : Operation) (given : Option (Except CacheError Response)) : Answer :=
  .ofResult operation
    (given.elim (.refused operation.breakerName) fun reply => (WorkEnd.ofExcept reply).result)

/-- What a read of values that a store gives in one kind of response returns. -/
structure ReadTells {β : Type} (found : Lookup β → Answer) (response : Option β → Response)
    (given : Option (Except CacheError Response)) (answer : Answer) : Prop where
  hit (value : β) : answer = found (.hit value) ↔ given = some (.ok (response (some value)))
  miss : answer = found .miss ↔ given = some (.ok (response none))
  unavailable : answer = found .unavailable ↔ given = none
  failed (error : CacheError) : answer = .notRead error ↔ given = some (.error error)
  exhaustive : (∃ lookup, answer = found lookup) ∨ ∃ error, answer = .notRead error

/-- What a write through the breaker with a name returns. -/
structure WriteTells (breaker : String) (given : Option (Except CacheError Response))
    (answer : Answer) : Prop where
  written : answer = .written ↔ given = some (.ok .done)
  unavailable (name : String) :
    answer = .notWritten (.unavailable name) ↔ given = none ∧ name = breaker
  failed (error : CacheError) : answer = .notWritten (.cache error) ↔ given = some (.error error)
  exhaustive : answer = .written ∨ ∃ error, answer = .notWritten error

/-- What an operation returns, by what its store gave. -/
def Tells (given : Option (Except CacheError Response)) (answer : Answer) : Operation → Prop
  | .getMessage => ReadTells .message .message given answer
  | .getChatMessages => ReadTells .history .history given answer
  | operation => WriteTells operation.breakerName given answer

theorem readTells {β : Type} {operation : Operation} {found : Lookup β → Answer}
    {response : Option β → Response} {given : Option (Except CacheError Response)}
    (refused : ∀ breaker, refused operation breaker = found .unavailable)
    (failed : ∀ error, failed operation error = .notRead error)
    (answered : ∀ value, ofResponse (response value) = found (.ofOption value))
    (inj : found.Injective) (sends : response.Injective)
    (apart : ∀ lookup error, found lookup ≠ .notRead error)
    (fits : ∀ r, given = some (.ok r) → ∃ value, r = response value) :
    ReadTells found response given (ofGiven operation given) := by
  rcases given with _ | error | r
  · constructor <;> simp [ofGiven, ofResult, refused, inj.eq_iff, apart]
  · constructor <;>
      simp [ofGiven, ofResult, WorkEnd.ofExcept, WorkEnd.result, failed, (apart _ _).symm]
  · obtain ⟨value, rfl⟩ := fits r rfl
    cases value <;> constructor <;>
      simp [ofGiven, ofResult, WorkEnd.ofExcept, WorkEnd.result, answered, Lookup.ofOption,
        inj.eq_iff, sends.eq_iff, apart]

theorem writeTells {operation : Operation} {given : Option (Except CacheError Response)}
    (refused : ∀ breaker, refused operation breaker = .notWritten (.unavailable breaker))
    (failed : ∀ error, failed operation error = .notWritten (.cache error))
    (fits : ∀ response, given = some (.ok response) → response = .done) :
    WriteTells operation.breakerName given (ofGiven operation given) := by
  rcases given with _ | error | response
  · constructor <;> simp [ofGiven, ofResult, refused, eq_comm]
  · constructor <;> simp [ofGiven, ofResult, WorkEnd.ofExcept, WorkEnd.result, failed]
  · cases fits response rfl
    constructor <;> simp [ofGiven, ofResult, WorkEnd.ofExcept, WorkEnd.result, ofResponse]

theorem tells_ofGiven (operation : Operation) {given : Option (Except CacheError Response)}
    (fits : ∀ response, given = some (.ok response) → response.Fits operation) :
    Tells given (ofGiven operation given) operation := by
  cases operation with
  | getMessage =>
    exact readTells (fun _ => rfl) (fun _ => rfl) (fun _ => rfl) (fun _ _ => Answer.message.inj)
      (fun _ _ => Response.message.inj) (fun _ _ => nofun) fits
  | getChatMessages =>
    exact readTells (fun _ => rfl) (fun _ => rfl) (fun _ => rfl) (fun _ _ => Answer.history.inj)
      (fun _ _ => Response.history.inj) (fun _ _ => nofun) fits
  | setMessage => exact writeTells (fun _ => rfl) (fun _ => rfl) fun r same => fits r same
  | deleteMessage => exact writeTells (fun _ => rfl) (fun _ => rfl) fun r same => fits r same
  | setChatMessages => exact writeTells (fun _ => rfl) (fun _ => rfl) fun r same => fits r same

end Answer

variable {σ : Type}

/-- The call of a store for a request, which takes some time. -/
def Visit.ofRequest (store : MessageStore σ) (request : Request) (delay : Duration) :
    Visit σ where
  operation := request.operation
  ask state := (.ofExcept (store.answer request state).1, (store.answer request state).2)
  delay

/-! No call moves the clock. -/

theorem clock_start (table : BindingTable) (operation : Operation) (f : Fleet) :
    (start table operation f).2.clock = f.clock := by
  have same := f.clock_lookup operation.breakerName { config := (table operation).breaker }
  rw [start, breaker]
  generalize f.lookup operation.breakerName { config := (table operation).breaker } = looked
    at same ⊢
  rcases looked with ⟨_ | handle, g⟩
  · exact same
  · exact (congrArg Fleet.clock (g.startCall_snd handle)).trans same

theorem Visit.clock_finish (rest : Open σ) (site : Site σ) :
    (finish rest site).2.fleet.clock = site.fleet.clock := by
  have settled : (settleStore rest site).2.fleet = site.fleet := by
    rw [settleStore]
    cases rest.ending <;> rfl
  rw [finish]
  cases rest.grant with
  | none => exact congrArg Fleet.clock settled
  | some grant =>
    exact (congrArg Fleet.clock (Fleet.finishCall_snd (settleStore rest site).2.fleet grant
      (settleStore rest site).1)).trans (by rw [settled]; rfl)

theorem Visit.clock_send (visit : Visit σ) (grant : Option Grant) (deadline : Option Duration)
    (site : Site σ) : (visit.send grant deadline site).2.fleet.clock = site.fleet.clock := by
  rw [send]
  simp only
  split
  · exact Visit.clock_finish _ _
  · rfl

theorem Visit.clock_start (visit : Visit σ) (site : Site σ) :
    (visit.start site).2.fleet.clock = site.fleet.clock := by
  have same := Protected.clock_start site.table visit.operation site.fleet
  rw [start]
  split
  · exact visit.clock_send none none site
  · generalize Protected.start site.table visit.operation site.fleet = started at same ⊢
    rcases started with ⟨_ | _ | _, fleet⟩
    · exact (visit.clock_send _ _ _).trans same
    · exact same
    · exact same

namespace Site

/-- The deadline of an operation. -/
def deadline (site : Site σ) (operation : Operation) : Duration :=
  (site.table operation).timeout

/-- What a store gives to a request within the deadline of its operation. -/
def reply (site : Site σ) (store : MessageStore σ) (request : Request) (delay : Duration) :
    Except CacheError Response :=
  if site.deadline request.operation < delay then
    .error (.timeout (site.deadline request.operation))
  else (store.answer request site.store).1

/-- What is in the store when it has been asked, unless it was stopped before. -/
def stored (site : Site σ) (store : MessageStore σ) (request : Request) (delay : Duration) : σ :=
  if site.deadline request.operation < delay then site.store
  else (store.answer request site.store).2

/-- Run one visit, at whose end the clock shows a later time unless the visit takes
no time. -/
def callUntil (site : Site σ) (visit : Visit σ) (later : Clock) : VisitAnswer × Site σ :=
  match visit.start site with
  | (.ended answer, site) => (answer, site)
  | (.waiting _ rest, site) =>
    Visit.finish rest { site with fleet := { site.fleet with clock := later } }

/-- The end of a call that has a grant, when the clock shows a time. -/
def settled (site : Site σ) (store : MessageStore σ) (request : Request) (delay : Duration)
    (grant : Grant) (fleet : Fleet) : VisitAnswer × Site σ :=
  let ended := fleet.finishCall grant (.ofExcept (site.reply store request delay))
  (.guarded (.ofResult request.operation ended.1),
    { site with
      fleet := ended.2
      store := site.stored store request delay
      calls := site.calls + 1 })

variable {site : Site σ} {store : MessageStore σ} {request : Request} {delay : Duration}

theorem finish_eq (grant : Grant) (fleet : Fleet) :
    Visit.finish
        ⟨.ofRequest store request delay, some grant,
          (Schedule.due delay (some (site.deadline request.operation)) none).ending⟩
        { site with fleet, calls := site.calls + 1 } =
      site.settled store request delay grant fleet := by
  by_cases late : site.deadline request.operation < delay
  · have due : Schedule.due delay (some (site.deadline request.operation)) none =
        ⟨site.deadline request.operation, .expired⟩ := if_pos late
    rw [due, settled, reply, stored, if_pos late, if_pos late]
    rfl
  · have due : Schedule.due delay (some (site.deadline request.operation)) none =
        ⟨delay, .finished⟩ := if_neg late
    rw [due, settled, reply, stored, if_neg late, if_neg late]
    rfl

theorem start_of_guarded {site : Site σ} {visit : Visit σ} (guarded : visit.direct = false) :
    visit.start site =
      match start site.table visit.operation site.fleet with
      | (.granted grant, fleet) =>
        visit.send (some grant) (some (site.deadline visit.operation)) { site with fleet }
      | (.refused breaker, fleet) =>
        (.ended (.guarded (.refused visit.operation breaker)), { site with fleet })
      | (.faulted fault, fleet) =>
        (.ended (.guarded (.aborted fault.message)), { site with fleet }) :=
  if_neg (by rw [guarded]; exact Bool.false_ne_true)

theorem start_ofRequest (site : Site σ) (store : MessageStore σ) (request : Request)
    (delay : Duration) :
    (Visit.ofRequest store request delay).start site =
      match start site.table request.operation site.fleet with
      | (.granted grant, fleet) =>
        (Visit.ofRequest store request delay).send (some grant)
          (some (site.deadline request.operation)) { site with fleet }
      | (.refused breaker, fleet) =>
        (.ended (.guarded (.refused request.operation breaker)), { site with fleet })
      | (.faulted fault, fleet) =>
        (.ended (.guarded (.aborted fault.message)), { site with fleet }) :=
  start_of_guarded rfl

/-- A call that is granted asks the store once and settles its grant. -/
theorem callUntil_of_granted (store : MessageStore σ) (delay : Duration) {grant : Grant}
    {fleet : Fleet} (later : Clock)
    (granted : start site.table request.operation site.fleet = (.granted grant, fleet)) :
    ∃ clock, (clock = fleet.clock ∨ clock = later) ∧
      site.callUntil (.ofRequest store request delay) later =
        site.settled store request delay grant { fleet with clock } := by
  rw [callUntil, start_ofRequest, granted]
  simp only
  by_cases instant : (Schedule.due delay (some (site.deadline request.operation)) none).after =
      .zero
  · have sent : (Visit.ofRequest store request delay).send (some grant)
        (some (site.deadline request.operation)) { site with fleet } =
        (.ended (site.settled store request delay grant fleet).1,
          (site.settled store request delay grant fleet).2) := by
      rw [← finish_eq]
      exact if_pos instant
    rw [sent]
    exact ⟨fleet.clock, .inl rfl, rfl⟩
  · have sent : (Visit.ofRequest store request delay).send (some grant)
        (some (site.deadline request.operation)) { site with fleet } =
        (.waiting (Schedule.due delay (some (site.deadline request.operation)) none).after
          ⟨.ofRequest store request delay, some grant,
            (Schedule.due delay (some (site.deadline request.operation)) none).ending⟩,
          { site with fleet, calls := site.calls + 1 }) := if_neg instant
    rw [sent]
    exact ⟨later, .inr rfl, finish_eq grant { fleet with clock := later }⟩

theorem callUntil_of_refused {breaker : String} {fleet : Fleet} (later : Clock)
    (refused : start site.table request.operation site.fleet = (.refused breaker, fleet)) :
    site.callUntil (.ofRequest store request delay) later =
      (.guarded (.refused request.operation breaker), { site with fleet }) := by
  rw [callUntil, start_ofRequest, refused]

theorem callUntil_of_faulted {fault : ClockFault} {fleet : Fleet} (later : Clock)
    (faulted : start site.table request.operation site.fleet = (.faulted fault, fleet)) :
    site.callUntil (.ofRequest store request delay) later =
      (.guarded (.aborted fault.message), { site with fleet }) := by
  rw [callUntil, start_ofRequest, faulted]

/-- A clock that does not move during a call makes no difference. -/
theorem callUntil_clock (site : Site σ) (visit : Visit σ) :
    site.callUntil visit site.fleet.clock = site.call visit := by
  have still := visit.clock_start site
  rw [callUntil, call]
  generalize visit.start site = started at still ⊢
  rcases started with ⟨_ | _, after⟩
  · rfl
  · rw [← still]

end Site

namespace Site

/-! ## How a call starts -/

/-- The breaker of an operation as a call finds it: the one that is registered, or
the one that is built since there is none. -/
def guard (site : Site σ) (operation : Operation) (now : Reading) : Breaker :=
  (site.fleet.find? operation.breakerName).elim
    (site.fleet.blueprint operation.breakerName { config := (site.table operation).breaker } now)
    site.fleet.breaker

/-- Whether the breaker of an operation admits a call. -/
def admits (site : Site σ) (operation : Operation) (now : Reading) : Bool :=
  (site.guard operation now).verdict now.instant ≠ .refuse

/-- A call of an operation has looked its breaker up and goes on with it. -/
structure Approaches (site : Site σ) (operation : Operation) (now : Reading) (handle : Handle)
    (g : Fleet) : Prop where
  start_eq : start site.table operation site.fleet = g.startCall handle
  breaker_eq : g.breaker handle = site.guard operation now
  name_eq : (site.guard operation now).name = operation.breakerName
  read : g.clock.read = .ok now
  sound : g.IsSound
  touched : site.fleet.OnlyTouches operation.breakerName handle g
  apart : site.fleet.find? operation.breakerName = none → site.fleet.breakers.length ≤ handle

theorem exists_approaches {site : Site σ} (sound : site.fleet.IsSound) (operation : Operation)
    {now : Reading} (read : site.fleet.clock.read = .ok now) :
    ∃ handle g, site.Approaches operation now handle g := by
  obtain ⟨handle, g, looked, finds⟩ :=
    sound.lookup operation.breakerName { config := (site.table operation).breaker } read
  refine ⟨handle, g, ?_, finds.breaker_eq, ?_, ?_, finds.sound, .of_finds finds, finds.outside⟩
  · rw [start, breaker, looked]
  · exact (congrArg Breaker.name finds.breaker_eq).symm.trans
      (finds.sound.named _ handle finds.found)
  · rw [finds.clock_eq, read]

/-- Without a readable clock a call ends where it starts. -/
theorem start_of_fault {f : Fleet} (table : BindingTable) (operation : Operation)
    {fault : ClockFault} (read : f.clock.read = .error fault) :
    start table operation f = (.faulted fault, f) := by
  rw [start, breaker, Fleet.lookup]
  cases f.find? operation.breakerName with
  | some handle => exact Fleet.startCall_of_fault read
  | none => simp only [Fleet.build, read]

/-! ## What a call comes to -/

/-- What a call gets from the store, which is nothing if it is refused. -/
def given (site : Site σ) (store : MessageStore σ) (request : Request) (delay : Duration)
    (now : Reading) : Option (Except CacheError Response) :=
  if site.admits request.operation now then some (site.reply store request delay) else none

/-- The outcome of a call can be reported when the clock shows a time: the clock can be
read, or the call succeeds and its breaker is closed and has seen no failure, so that no
time is needed. -/
def CanReport (site : Site σ) (store : MessageStore σ) (request : Request) (delay : Duration)
    (now : Reading) (later : Clock) : Prop :=
  (∃ atEnd, later.read = .ok atEnd) ∨
    (site.guard request.operation now).isHealthy = true ∧
      (site.reply store request delay).isOk = true

/-- What a call for a request comes to.  If the breaker of the operation admits it,
the store is asked once and one outcome is reported, a success exactly if the store
answered in time; otherwise the store is not asked and the refusal is counted.  The
other breakers are left alone. -/
structure Classified (site : Site σ) (store : MessageStore σ) (request : Request)
    (delay : Duration) (now : Reading) (handle : Handle) (answer : VisitAnswer)
    (after : Site σ) : Prop where
  answered : ∃ told, answer = .guarded told ∧
    Answer.Tells (site.given store request delay now) told request.operation
  calls : after.calls = site.calls + if site.admits request.operation now then 1 else 0
  stored : after.store =
    if site.admits request.operation now then site.stored store request delay else site.store
  table : after.table = site.table
  recorded : site.admits request.operation now = true → ∃ permit atEnd,
    ((site.guard request.operation now).acquire (.ok now)).answer = .ok (some permit) ∧
      after.fleet.breaker handle =
        (((site.guard request.operation now).acquire (.ok now)).breaker.settle permit
          (.ofBool (site.reply store request delay).isOk) (.ok atEnd)).breaker
  refused : site.admits request.operation now = false →
    after.fleet.breaker handle = (site.guard request.operation now).countAdmission false
  counted : (site.guard request.operation now).totals.Counts
    (if site.admits request.operation now then 1 else 0)
    (if site.admits request.operation now then 0 else 1)
    (if site.admits request.operation now then [.ofBool (site.reply store request delay).isOk]
      else [])
    (after.fleet.breaker handle).totals
  touched : site.fleet.OnlyTouches request.operation.breakerName handle after.fleet
  registered : ∀ name old, name ≠ request.operation.breakerName →
    site.fleet.find? name = some old →
      after.fleet.find? name = some old ∧ after.fleet.breaker old = site.fleet.breaker old
  sound : after.fleet.IsSound

section Rows

variable {site : Site σ} {store : MessageStore σ} {request : Request} {delay : Duration}
  {now : Reading} {handle : Handle} {g : Fleet}

theorem tells_given (site : Site σ) (store : MessageStore σ) (request : Request)
    (delay : Duration) (now : Reading) :
    Answer.Tells (site.given store request delay now)
      (.ofGiven request.operation (site.given store request delay now)) request.operation := by
  apply Answer.tells_ofGiven
  intro response gave
  rw [given] at gave
  by_cases passes : site.admits request.operation now = true
  · rw [if_pos passes, reply] at gave
    by_cases late : site.deadline request.operation < delay
    · rw [if_pos late] at gave
      cases gave
    · rw [if_neg late] at gave
      exact store.fits request site.store response (Option.some.inj gave)
  · rw [if_neg passes] at gave
    cases gave

theorem verdict_of_refuse {operation : Operation}
    (refuses : site.admits operation now = false) :
    (site.guard operation now).verdict now.instant = .refuse := by
  rwa [Site.admits, decide_eq_false_iff_not, not_not] at refuses

theorem Approaches.start_of_refuse {operation : Operation}
    (h : site.Approaches operation now handle g) (refuses : site.admits operation now = false) :
    start site.table operation site.fleet =
      (.refused operation.breakerName, (g.acquire handle).2) := by
  have refuse : (g.breaker handle).verdict now.instant = .refuse := by
    rw [h.breaker_eq, verdict_of_refuse refuses]
  rw [h.start_eq, Fleet.startCall_of_refuse h.read refuse, h.breaker_eq, h.name_eq]

/-- A refusal is counted by the breaker that refuses, and that is all. -/
theorem Approaches.breaker_of_refuse {operation : Operation}
    (h : site.Approaches operation now handle g) (refuses : site.admits operation now = false) :
    (g.acquire handle).2.breaker handle = (site.guard operation now).countAdmission false := by
  rw [Fleet.acquire, Fleet.breaker_apply _ h.touched.inside, h.breaker_eq, h.read,
    Breaker.acquire_of_refuse (verdict_of_refuse refuses)]

theorem Approaches.start_of_admits {operation : Operation}
    (h : site.Approaches operation now handle g) (admits : site.admits operation now = true) :
    ∃ permit, ((site.guard operation now).acquire (.ok now)).answer = .ok (some permit) ∧
      start site.table operation site.fleet =
        (.granted ⟨handle, permit⟩, (g.acquire handle).2) := by
  have passes : (g.breaker handle).verdict now.instant ≠ .refuse := by
    rw [h.breaker_eq]
    rwa [Site.admits, decide_eq_true_eq] at admits
  obtain ⟨permit, issued, granted⟩ := Fleet.startCall_of_ne_refuse h.read passes
  rw [h.breaker_eq] at issued
  exact ⟨permit, issued, h.start_eq.trans granted⟩

theorem Approaches.classified_of_refuse (h : site.Approaches request.operation now handle g)
    (sound : site.fleet.IsSound) (refuses : site.admits request.operation now = false)
    (later : Clock) :
    site.Classified store request delay now handle
      (site.callUntil (.ofRequest store request delay) later).1
      (site.callUntil (.ofRequest store request delay) later).2 := by
  have started := h.start_of_refuse refuses
  have breaker := h.breaker_of_refuse refuses
  have touched : site.fleet.OnlyTouches request.operation.breakerName handle
      (g.acquire handle).2 := h.touched.apply _
  have gave : site.given store request delay now = none := by
    rw [given, refuses]
    rfl
  have told := site.tells_given store request delay now
  rw [gave] at told
  rw [callUntil_of_refused later started]
  constructor
  · refine ⟨_, rfl, ?_⟩
    rw [gave]
    exact told
  · rw [refuses]
    rfl
  · rw [refuses]
    rfl
  · rfl
  · intro admits
    rw [refuses] at admits
    cases admits
  · exact fun _ => breaker
  · rw [breaker, refuses]
    exact ⟨rfl, rfl, rfl, rfl⟩
  · exact touched
  · exact fun name old different found => touched.registered sound different found h.apart
  · exact h.sound.acquire handle

theorem outcome_ofExcept (reply : Except CacheError Response) :
    (WorkEnd.ofExcept reply).outcome = .ofBool reply.isOk := by
  cases reply <;> rfl

/-- A healthy breaker is still healthy when it has issued a permit. -/
theorem isHealthy_acquire {b : Breaker} (healthy : b.isHealthy = true) (now : Reading) :
    (b.acquire (.ok now)).breaker.isHealthy = true := by
  obtain ⟨closed, clean⟩ := (Breaker.isHealthy_iff b).mp healthy
  have passes : b.verdict now.instant = .pass := (b.verdict_eq_pass_iff now).mpr (.inl closed)
  have closed : b.phase.state = .closed := closed
  simp only [Breaker.acquire, passes, if_pos closed]
  exact healthy

/-- An outcome that can be reported is reported as if the clock could be read. -/
theorem CanReport.exists_settle {later : Clock}
    (reports : site.CanReport store request delay now later) (permit : Permit) {clock : Clock}
    (moment : clock.read = .ok now ∨ clock = later) :
    ∃ last,
      ((site.guard request.operation now).acquire (.ok now)).breaker.settle permit
          (.ofBool (site.reply store request delay).isOk) clock.read =
        ((site.guard request.operation now).acquire (.ok now)).breaker.settle permit
          (.ofBool (site.reply store request delay).isOk) (.ok last) := by
  rcases moment with read | rfl
  · exact ⟨now, by rw [read]⟩
  · rcases reports with ⟨last, read⟩ | ⟨healthy, success⟩
    · exact ⟨last, by rw [read]⟩
    · have healthy := isHealthy_acquire healthy now
      refine ⟨now, ?_⟩
      rw [success, Outcome.ofBool, Breaker.settle, Breaker.settle,
        Breaker.report_healthy ⟨rfl, healthy⟩, Breaker.report_healthy ⟨rfl, healthy⟩]

theorem Approaches.classified_of_admitted (h : site.Approaches request.operation now handle g)
    (sound : site.fleet.IsSound) (admits : site.admits request.operation now = true)
    {later : Clock} (reports : site.CanReport store request delay now later) :
    site.Classified store request delay now handle
      (site.callUntil (.ofRequest store request delay) later).1
      (site.callUntil (.ofRequest store request delay) later).2 := by
  obtain ⟨permit, issued, granted⟩ := h.start_of_admits admits
  obtain ⟨clock, moment, ended⟩ := callUntil_of_granted store delay later granted
  -- the outcome can be reported at the end, whether or not the clock has moved
  obtain ⟨last, settles⟩ := reports.exists_settle permit
    (moment.imp (fun still => by rw [still]; exact h.read) id)
  have acquired : (g.acquire handle).2.breaker handle =
      ((site.guard request.operation now).acquire (.ok now)).breaker := by
    rw [Fleet.acquire, Fleet.breaker_apply _ h.touched.inside, h.breaker_eq, h.read]
  have turned : site.fleet.OnlyTouches request.operation.breakerName handle
      { (g.acquire handle).2 with clock } := (h.touched.apply _).turn clock
  have breaker : (Fleet.settle { (g.acquire handle).2 with clock } handle permit
      (WorkEnd.ofExcept (site.reply store request delay)).outcome).2.breaker handle =
      (((site.guard request.operation now).acquire (.ok now)).breaker.settle permit
        (.ofBool (site.reply store request delay).isOk) (.ok last)).breaker := by
    rw [Fleet.settle, Fleet.breaker_apply _ turned.inside, outcome_ofExcept, ← settles,
      ← acquired]
    rfl
  have answer : (Fleet.settle { (g.acquire handle).2 with clock } handle permit
      (WorkEnd.ofExcept (site.reply store request delay)).outcome).1 = .ok () := by
    rw [outcome_ofExcept]
    calc (Fleet.settle { (g.acquire handle).2 with clock } handle permit
          (.ofBool (site.reply store request delay).isOk)).1
      _ = (((g.acquire handle).2.breaker handle).settle permit
            (.ofBool (site.reply store request delay).isOk) clock.read).answer := rfl
      _ = (((site.guard request.operation now).acquire (.ok now)).breaker.settle permit
            (.ofBool (site.reply store request delay).isOk) (.ok last)).answer := by
          rw [acquired, settles]
      _ = .ok () := Breaker.report_ok_answer _ _ _ last
  have touched : site.fleet.OnlyTouches request.operation.breakerName handle
      (Fleet.settle { (g.acquire handle).2 with clock } handle permit
        (WorkEnd.ofExcept (site.reply store request delay)).outcome).2 := turned.apply _
  have gave : site.given store request delay now = some (site.reply store request delay) := by
    rw [given, admits]
    rfl
  have told := site.tells_given store request delay now
  rw [gave] at told
  rw [ended, settled, Fleet.finishCall_of_settled ⟨handle, permit⟩ _ answer]
  constructor
  · refine ⟨_, rfl, ?_⟩
    rw [gave]
    exact told
  · rw [admits]
    rfl
  · rw [admits]
    rfl
  · rfl
  · exact fun _ => ⟨permit, last, issued, breaker⟩
  · intro refuses
    rw [admits] at refuses
    cases refuses
  · rw [breaker, admits]
    have first := (site.guard request.operation now).counts_acquire (.ok now)
    rw [issued] at first
    exact first.trans (Breaker.counts_report _ _ (some permit) (.ok last))
  · exact touched
  · exact fun name old different found => touched.registered sound different found h.apart
  · exact ((h.sound.acquire handle).turn clock).settle handle permit _

end Rows

/-- What a call comes to in any state of the breakers, for any store and any time
that it takes, if it is refused or its outcome can be reported at its end.  A call
that cannot read the clock at its start is broken off there, and nothing has changed.
A fleet whose registry was empty at first is sound (`Fleet.IsSound.afterUses`). -/
theorem call_classified {site : Site σ} (sound : site.fleet.IsSound) (store : MessageStore σ)
    (request : Request) (delay : Duration) (later : Clock) :
    match site.fleet.clock.read with
    | .ok now =>
      (site.admits request.operation now = true →
        site.CanReport store request delay now later) →
      ∃ handle, site.Classified store request delay now handle
        (site.callUntil (.ofRequest store request delay) later).1
        (site.callUntil (.ofRequest store request delay) later).2
    | .error fault => site.callUntil (.ofRequest store request delay) later =
        (.guarded (.aborted fault.message), site) := by
  cases read : site.fleet.clock.read with
  | error fault => exact callUntil_of_faulted later (start_of_fault site.table _ read)
  | ok now =>
    obtain ⟨handle, g, approaches⟩ := exists_approaches sound request.operation read
    refine fun reports => ⟨handle, ?_⟩
    cases admits : site.admits request.operation now with
    | false => exact approaches.classified_of_refuse sound admits later
    | true => exact approaches.classified_of_admitted sound admits (reports admits)

/-- A write that takes longer than its deadline has reached the store, and its
caller is told of the deadline. -/
theorem late_write_times_out :
    let site : Site Backend := { fleet := {}, table := .builtIn, store := .memory {} }
    let later : Clock := { offset := .ofSeconds 1 }
    let write : Visit Backend :=
      .ofRequest (Backend.messageStore none) (.deleteMessage "a") (.ofSeconds 2)
    (∃ atEnd, later.read = .ok atEnd) ∧
      (site.callUntil write later).1 =
        .guarded (.notWritten (.cache (.timeout (.ofSeconds 1)))) ∧
      (site.callUntil write later).2.calls = 1 := by
  intro site later write
  have read : site.fleet.clock.read = .ok ⟨⟨0⟩, Clock.origin⟩ := by decide
  obtain ⟨atEnd, shown⟩ : ∃ atEnd, later.read = .ok atEnd := ⟨_, if_pos (by decide)⟩
  have classified := call_classified (.of_unregistered (rfl : site.fleet.registry.names = .empty))
    (Backend.messageStore none) (.deleteMessage "a") (.ofSeconds 2) later
  rw [read] at classified
  obtain ⟨handle, classified⟩ := classified fun _ => .inl ⟨atEnd, shown⟩
  obtain ⟨told, same, tells⟩ := classified.answered
  have calls : (site.callUntil write later).2.calls = 1 := classified.calls
  have late : told = .notWritten (.cache (.timeout (.ofSeconds 1))) := (tells.failed _).mpr rfl
  exact ⟨⟨atEnd, shown⟩, same.trans (congrArg VisitAnswer.guarded late), calls⟩

/-- A call that starts while the clock cannot be read comes to nothing of that. -/
theorem unread_call_not_classified :
    ¬ ∀ (site : Site Backend) (store : MessageStore Backend) (request : Request)
        (delay : Duration), site.fleet.IsSound →
      ∃ now handle, site.Classified store request delay now handle
        (site.call (.ofRequest store request delay)).1
        (site.call (.ofRequest store request delay)).2 := by
  intro all
  let broken : Clock := { offset := .ofSeconds 9300000000000000000 }
  let site : Site Backend :=
    { fleet := { clock := broken }, table := .builtIn, store := .memory {} }
  have read : site.fleet.clock.read = .error .instantOverflow := by decide
  obtain ⟨now, handle, classified⟩ :=
    all site (Backend.messageStore none) (.getMessage "a") .zero (.of_unregistered rfl)
  obtain ⟨told, same, tells⟩ := classified.answered
  rw [← callUntil_clock, callUntil_of_faulted _ (start_of_fault site.table _ read)] at same
  cases same
  rcases tells.exhaustive with ⟨lookup, same⟩ | ⟨error, same⟩
  · cases same
  · cases same

end Site

end Protected

end GuardedCache

import GuardedCache.Proofs.Protected.Calls
import GuardedCache.Proofs.Protected.Calm
import GuardedCache.Proofs.Protected.Traffic
import GuardedCache.Proofs.Settings.Validation
import GuardedCache.Service

/-!
# Configured protection

The breakers of a service are built when it starts, and again when a call finds that the
administration has removed one.  Either way a breaker gets what the settings say for its
operation: `IsProtected` says so of all breakers that are registered, and every use that a
service makes of its fleet keeps it.
-/

namespace GuardedCache

open Circuit Protected Store

/-! ## What settings say of a breaker -/

namespace Settings

/-- What is changed of the breaker of an operation. -/
def ownChanges (s : Settings) (operation : Operation) : Override :=
  ((s.protectedCache.operations.get? operation.breakerName).bind (·.breaker)).getD {}

/-- The configuration of the breaker of an operation: each field is changed, or else built
in for the operation, or else the one of all breakers. -/
def effective (s : Settings) (operation : Operation) : Config where
  failureThreshold :=
    ((s.ownChanges operation).failureThreshold.or
      ((builtInConfig operation).map (·.failureThreshold))).getD s.breaker.failureThreshold
  resetTimeoutMs :=
    ((s.ownChanges operation).resetTimeoutMs.or
      ((builtInConfig operation).map (·.resetTimeoutMs))).getD s.breaker.resetTimeoutMs
  halfOpenMaxCalls :=
    ((s.ownChanges operation).halfOpenMaxCalls.or
      ((builtInConfig operation).map (·.halfOpenMaxCalls))).getD s.breaker.halfOpenMaxCalls

theorem effective_eq_apply (s : Settings) (operation : Operation) :
    s.effective operation =
      (s.ownChanges operation).apply ((builtInConfig operation).getD s.breaker) := by
  rw [effective, Override.apply]
  obtain ⟨threshold, timeout, calls⟩ := s.ownChanges operation
  cases builtInConfig operation <;> cases threshold <;> cases timeout <;> cases calls <;> rfl

/-- The table has what the settings say. -/
theorem configOf_bindingTable (s : Settings) (operation : Operation) :
    ((s.bindingTable operation).breaker).getD s.breaker = s.effective operation := by
  rw [effective_eq_apply, ownChanges, bindingTable, laidOver, Table.get?]
  cases Table.find? s.protectedCache.operations.entries operation.breakerName with
  | none => rfl
  | some o =>
    obtain ⟨timeout, breaker⟩ := o
    cases breaker <;> rfl

/-- Sound settings leave no zero that would have to be replaced. -/
theorem invalidField_effective {s : Settings} (sound : s.problem = none)
    (operation : Operation) : (s.effective operation).invalidField = none := by
  have runnable := isRunnable_of_sound sound
  obtain ⟨table, made, usable⟩ := runnable.table
  obtain ⟨_, rfl⟩ := (s.bindings_eq_ok_iff table).mp made
  rw [← configOf_bindingTable]
  cases own : (s.bindingTable operation).breaker with
  | none => exact s.breaker.invalidField_eq_none_iff.mpr runnable.defaults
  | some config => exact (usable operation).breaker config own

/-- The breaker is the one that the settings want for an operation. -/
structure Wants (s : Settings) (operation : Operation) (b : Breaker) : Prop where
  name_eq : b.name = operation.breakerName
  config_eq : b.config = s.effective operation
  observers_eq : b.observers = [.logging, .metrics]

end Settings

/-! ## What a service does with its fleet -/

namespace Circuit.Fleet

/-- A breaker that is registered after a use was registered before, or the use made it. -/
theorem find?_of_afterUse {f : Fleet} {u : Use} {name : String} {handle : Handle}
    (found : (f.afterUse u).find? name = some handle) :
    f.find? name = some handle ∨ f.Makes u ((f.afterUse u).breaker handle) := by
  have deed := f.deed u
  generalize f.afterUse u = g at deed found ⊢
  cases deed with
  | adopted other built makes aimless missing =>
    rw [find?_adopt] at found
    by_cases same : name = other
    · rw [if_pos same] at found
      cases found
      rw [breaker_adopt_length]
      exact .inr makes
    · rw [if_neg same] at found
      exact .inl found
  | forgot other =>
    rw [find?, Fleet.remove, Table.get?_erase] at found
    by_cases same : name = other
    · rw [if_pos same] at found
      cases found
    · rw [if_neg same] at found
      exact .inl found
  | _ => exact .inl found

end Circuit.Fleet

namespace Protected

/-- The uses that a protected cache, its administration and its clock make of a fleet. -/
inductive Serves (table : BindingTable) : Fleet.Use → Prop where
  | lookup (operation : Operation) :
      Serves table (.lookup operation.breakerName { config := (table operation).breaker })
  | acquire (handle : Handle) : Serves table (.acquire handle)
  | settle (handle : Handle) (permit : Permit) (outcome : Outcome) :
      Serves table (.settle handle permit outcome)
  | remove (name : String) : Serves table (.remove name)
  | resetNamed (name : String) : Serves table (.resetNamed name)
  | turn {u : Fleet.Use} (turns : u.turnsClock = true) : Serves table u

theorem Serves.joining_eq_nil {table : BindingTable} {u : Fleet.Use} (serves : Serves table u)
    (handle : Handle) : u.joining handle = [] := by
  cases serves with
  | turn turns => cases u <;> first | rfl | cases turns
  | _ => rfl

/-- Such uses lead from one fleet to the other. -/
def Leads (table : BindingTable) (f g : Fleet) : Prop :=
  ∃ uses : List Fleet.Use, (∀ u ∈ uses, Serves table u) ∧ g = f.afterUses uses

namespace Leads

variable {table : BindingTable} {f g k : Fleet}

theorem refl (table : BindingTable) (f : Fleet) : Leads table f f :=
  ⟨[], nofun, rfl⟩

theorem of_serves {u : Fleet.Use} (serves : Serves table u) : Leads table f (f.afterUse u) :=
  ⟨[u], fun _ member => List.mem_singleton.mp member ▸ serves, rfl⟩

theorem trans (first : Leads table f g) (second : Leads table g k) : Leads table f k := by
  obtain ⟨uses, serve, rfl⟩ := first
  obtain ⟨more, serve', rfl⟩ := second
  refine ⟨uses ++ more, fun u member => ?_, (Fleet.afterUses_append f uses more).symm⟩
  rcases List.mem_append.mp member with member | member
  · exact serve u member
  · exact serve' u member

theorem breaker (table : BindingTable) (operation : Operation) (f : Fleet) :
    Leads table f (Protected.breaker table operation f).2 :=
  of_serves (.lookup operation)

theorem registerBreakers (table : BindingTable) (operations : List Operation) (f : Fleet) :
    Leads table f (Protected.registerBreakers table operations f).2 := by
  induction operations generalizing f with
  | nil => exact refl table f
  | cons operation rest ih =>
    have looked := breaker table operation f
    rw [Protected.registerBreakers]
    generalize Protected.breaker table operation f = found at looked ⊢
    obtain ⟨_ | handle, g⟩ := found
    · exact looked
    · exact looked.trans (ih g)

theorem start (table : BindingTable) (operation : Operation) (f : Fleet) :
    Leads table f (Protected.start table operation f).2 := by
  have looked := breaker table operation f
  rw [Protected.start]
  generalize Protected.breaker table operation f = found at looked ⊢
  obtain ⟨_ | handle, g⟩ := found
  · exact looked
  · refine looked.trans ?_
    simp only [Fleet.startCall_snd]
    exact of_serves (.acquire handle)

theorem finish (table : BindingTable) (operation : Operation) (grant : Grant)
    (work : WorkEnd CacheError Response) (f : Fleet) :
    Leads table f (Protected.finish operation grant work f).2 := by
  have settled : (Protected.finish operation grant work f).2 =
      f.afterUse (.settle grant.handle grant.permit work.outcome) :=
    f.finishCall_snd grant work
  rw [settled]
  exact of_serves (.settle ..)

theorem respond (table : BindingTable) (method : String) (target : Http.Target) (f : Fleet) :
    Leads table f (Admin.respond method target f).2 := by
  rcases Admin.respond_snd method target f with same | ⟨name, same⟩ | ⟨name, same⟩
  · rw [same]
    exact refl table f
  · rw [same]
    exact of_serves (.remove name)
  · rw [same]
    exact of_serves (.resetNamed name)

end Leads

section Visits

variable {σ : Type}

/-- A site after some visits or some administration. -/
structure Site.Leads (site after : Site σ) : Prop where
  table_eq : after.table = site.table
  fleet : Protected.Leads site.table site.fleet after.fleet

theorem Site.Leads.trans {site middle after : Site σ} (first : site.Leads middle)
    (second : middle.Leads after) : site.Leads after where
  table_eq := second.table_eq.trans first.table_eq
  fleet := first.fleet.trans (first.table_eq ▸ second.fleet)

theorem Site.Leads.of_fleet {site : Site σ} {fleet : Fleet}
    (leads : Protected.Leads site.table site.fleet fleet) : site.Leads { site with fleet } :=
  ⟨rfl, leads⟩

namespace Visit

theorem leads_settleStore (rest : Open σ) (site : Site σ) :
    site.Leads (settleStore rest site).2 := by
  rw [settleStore]
  cases rest.ending <;> exact ⟨rfl, .refl _ _⟩

theorem leads_finish (rest : Open σ) (site : Site σ) : site.Leads (finish rest site).2 := by
  have asked := leads_settleStore rest site
  rw [finish]
  generalize settleStore rest site = settled at asked ⊢
  obtain ⟨work, after⟩ := settled
  cases rest.grant with
  | none => exact asked
  | some grant => exact asked.trans (.of_fleet (.finish _ _ grant work after.fleet))

theorem leads_send (visit : Visit σ) (grant : Option Grant) (deadline : Option Duration)
    (site : Site σ) : site.Leads (visit.send grant deadline site).2 := by
  have received : site.Leads { site with calls := site.calls + 1 } := ⟨rfl, .refl _ _⟩
  rw [send]
  simp only
  split
  · exact received.trans (leads_finish _ _)
  · exact received

theorem leads_start (visit : Visit σ) (site : Site σ) : site.Leads (visit.start site).2 := by
  have started := Protected.Leads.start site.table visit.operation site.fleet
  rw [start]
  split
  · exact leads_send visit none none site
  · generalize Protected.start site.table visit.operation site.fleet = asked at started ⊢
    obtain ⟨_ | _ | _, fleet⟩ := asked
    · exact Site.Leads.trans (.of_fleet started) (leads_send visit _ _ _)
    · exact .of_fleet started
    · exact .of_fleet started

end Visit

/-- A move that a service makes: its fleet is used by visits, by the administration and by
the clock, and by nobody else. -/
def Move.IsOrdinary : Move (Visit σ) σ → Prop
  | .use u => u.turnsClock = true
  | _ => True

theorem Traffic.leads_step (t : Traffic σ) {m : Move (Visit σ) σ} (ordinary : m.IsOrdinary) :
    t.site.Leads (t.step m).site := by
  cases m with
  | start visit => exact visit.leads_start t.site
  | finish number =>
    rw [step, finish]
    split
    · exact Visit.leads_finish _ _
    · exact ⟨rfl, .refl _ _⟩
  | use u => exact .of_fleet (.of_serves (.turn ordinary))
  | admin method target => exact .of_fleet (.respond _ method target t.site.fleet)
  | drift change => exact ⟨rfl, .refl _ _⟩

theorem Traffic.leads_run (t : Traffic σ) {moves : List (Move (Visit σ) σ)}
    (ordinary : ∀ m ∈ moves, m.IsOrdinary) : t.site.Leads (t.run moves).site := by
  induction moves generalizing t with
  | nil => exact ⟨rfl, .refl _ _⟩
  | cons m moves ih =>
    obtain ⟨first, rest⟩ := List.forall_mem_cons.mp ordinary
    exact (t.leads_step first).trans (ih (t.step m) rest)

end Visits

end Protected

/-! ## Protected fleets -/

/-- Every registered breaker is the one that the settings want for some operation, and so
will be those that are built later. -/
structure IsProtected (s : Settings) (f : Fleet) : Prop where
  sound : f.IsSound
  defaults_eq : f.registry.defaults = s.breaker
  observers_eq : f.registry.observers = [.logging, .metrics]
  wanted : ∀ name handle, f.find? name = some handle →
    ∃ operation : Operation, operation.breakerName = name ∧ s.Wants operation (f.breaker handle)

namespace IsProtected

variable {s : Settings} {f g : Fleet}

/-- What a use makes is what the settings want. -/
theorem wants_of_makes (h : IsProtected s f) (sound : s.problem = none) {u : Fleet.Use}
    {built : Breaker} (serves : Serves s.bindingTable u) (makes : f.Makes u built) :
    ∃ operation, s.Wants operation built := by
  cases makes with
  | built name config observers now read =>
    cases serves with
    | turn turns => cases turns
  | looked name options now read missing =>
    cases serves with
    | turn turns => cases turns
    | lookup operation =>
      refine ⟨operation, rfl, ?_, ?_⟩
      · calc
          (((s.bindingTable operation).breaker).getD f.registry.defaults).sanitize =
              (s.effective operation).sanitize := by
            rw [h.defaults_eq, s.configOf_bindingTable]
          _ = s.effective operation :=
            Config.sanitize_of_valid (s.invalidField_effective sound operation)
      · calc
          f.registry.observers ++ [] = f.registry.observers := List.append_nil _
          _ = [.logging, .metrics] := h.observers_eq

theorem afterUse (h : IsProtected s f) (sound : s.problem = none) {u : Fleet.Use}
    (serves : Serves s.bindingTable u) : IsProtected s (f.afterUse u) where
  sound := h.sound.afterUse u
  defaults_eq := (f.registry_afterUse u).1.trans h.defaults_eq
  observers_eq := (f.registry_afterUse u).2.trans h.observers_eq
  wanted name handle found := by
    rcases Fleet.find?_of_afterUse found with before | makes
    · obtain ⟨operation, named, wants⟩ := h.wanted name handle before
      have settled := Fleet.settled_afterUse u (h.sound.inside name handle before)
      rw [serves.joining_eq_nil] at settled
      refine ⟨operation, named, ?_, ?_, ?_⟩
      · exact settled.name_eq.trans wants.name_eq
      · exact settled.config_eq.trans wants.config_eq
      · rw [settled.observers_eq, List.append_nil, wants.observers_eq]
    · obtain ⟨operation, wants⟩ := h.wants_of_makes sound serves makes
      refine ⟨operation, ?_, wants⟩
      exact wants.name_eq.symm.trans ((h.sound.afterUse u).named name handle found)

theorem leads (h : IsProtected s f) (sound : s.problem = none)
    (leads : Leads s.bindingTable f g) : IsProtected s g := by
  obtain ⟨uses, serve, rfl⟩ := leads
  induction uses generalizing f with
  | nil => exact h
  | cons u rest ih =>
    obtain ⟨serves, serve⟩ := List.forall_mem_cons.mp serve
    exact ih (h.afterUse sound serves) serve

end IsProtected

namespace Service

theorem isProtected_emptyFleet (s : Settings) : IsProtected s (emptyFleet s) where
  sound := .of_unregistered rfl
  defaults_eq := rfl
  observers_eq := rfl
  wanted name handle found := by cases found

theorem isClosed_emptyFleet (s : Settings) : IsClosed (emptyFleet s) :=
  fun operation handle found => by cases found

/-- A service that has just started: all five breakers are there. -/
structure IsReady (s : Settings) (service : Service) : Prop where
  table_eq : service.table = s.bindingTable
  isProtected : IsProtected s service.fleet
  registered : ∀ operation : Operation, ∃ handle,
    service.fleet.find? operation.breakerName = some handle ∧
      (service.fleet.breaker handle).state = .closed

theorem isReady_build (libraries : Redis.Libraries) {s : Settings} (sound : s.problem = none)
    (memory : s.redis = none) : ∃ service, build libraries s = .ok service ∧ IsReady s service := by
  have bindings : s.bindings = .ok s.bindingTable := by
    obtain ⟨table, made, _⟩ := (Settings.isRunnable_of_sound sound).table
    rwa [← ((s.bindings_eq_ok_iff table).mp made).2]
  have empty := isProtected_emptyFleet s
  have read : ({} : Clock).read = .ok ⟨⟨0⟩, Clock.origin⟩ := rfl
  obtain ⟨g, registered, calms, all⟩ :=
    (isClosed_emptyFleet s).registerBreakers empty.sound s.bindingTable read Operation.all
  have leads := Leads.registerBreakers s.bindingTable Operation.all (emptyFleet s)
  rw [registered] at leads
  refine ⟨⟨g, s.bindingTable, .memory {}, 0⟩, ?_, rfl, empty.leads sound leads, ?_⟩
  · have backend : backend libraries s = .ok (.memory {}) := by rw [Service.backend, memory]
    have built : ({ fleet := emptyFleet s, table := s.bindingTable, store := .memory {} } :
        Service).register.2 = ⟨g, s.bindingTable, .memory {}, 0⟩ := by
      rw [Site.register, registered]
    rw [build, backend, bindings]
    exact congrArg Except.ok built
  · intro operation
    obtain ⟨handle, found⟩ := all operation operation.mem_all
    exact ⟨handle, found, calms.stays.closed operation handle found⟩

/-- In a service with sound settings every registered breaker guards one of the five
operations, just as the settings want it, whatever visits there are, whatever is
administered and however the clock moves; at first all five are there and closed. -/
theorem protection_survives (libraries : Redis.Libraries) {s : Settings}
    (sound : s.problem = none) (memory : s.redis = none) :
    ∃ service, build libraries s = .ok service ∧
      (∀ operation : Operation, ∃ handle,
        service.fleet.find? operation.breakerName = some handle ∧
          (service.fleet.breaker handle).state = .closed) ∧
      ∀ moves : List (Move (Visit Backend) Backend), (∀ m ∈ moves, m.IsOrdinary) →
        ∀ name handle,
          (({ site := service } : Traffic Backend).run moves).site.fleet.find? name = some handle →
          ∃ operation : Operation, operation.breakerName = name ∧
            s.Wants operation
              ((({ site := service } : Traffic Backend).run moves).site.fleet.breaker handle) := by
  obtain ⟨service, built, ready⟩ := isReady_build libraries sound memory
  refine ⟨service, built, ready.registered, fun moves ordinary name handle found => ?_⟩
  have leads := ({ site := service } : Traffic Backend).leads_run ordinary
  have later := ready.isProtected.leads sound (ready.table_eq ▸ leads.fleet)
  exact later.wanted name handle found

/-- Reads are given up on sooner than elsewhere. -/
def impatientSettings : Settings where
  protectedCache.operations :=
    .ofList [("redis-get-message", { breaker := some { failureThreshold := some 3 } })]

/-- The breaker of reads is removed, and then a message is read. -/
def removalMoves : List (Move (Visit Backend) Backend) :=
  [.admin "POST" ⟨"/api/circuit-breakers/reset", some "name=redis-get-message"⟩,
    .start (.ofRequest (Backend.messageStore none) (.getMessage "a") .zero)]

theorem protection_survives_removal :
    impatientSettings.problem = none ∧ impatientSettings.redis = none ∧
      ∃ service handle, build (.ofAddress "") impatientSettings = .ok service ∧
        (({ site := service } : Traffic Backend).run removalMoves).site.fleet.find?
          "redis-get-message" = some handle ∧
        ((({ site := service } : Traffic Backend).run removalMoves).site.fleet.breaker
          handle).config = ⟨3, 10000, 1⟩ := by
  have sound : impatientSettings.problem = none := by decide
  have back : ∀ service, build (.ofAddress "") impatientSettings = .ok service →
      (({ site := service } : Traffic Backend).run removalMoves).site.fleet.find?
        "redis-get-message" = some 5 := by
    intro service built
    cases built
    decide +kernel
  obtain ⟨service, built, _, later⟩ := protection_survives (.ofAddress "") sound rfl
  refine ⟨sound, rfl, service, 5, built, back service built, ?_⟩
  obtain ⟨operation, named, wants⟩ :=
    later removalMoves (by simp [removalMoves, Move.IsOrdinary]) _ 5 (back service built)
  have named : operation.breakerName = Operation.getMessage.breakerName := named
  cases Operation.breakerName_injective named
  rw [wants.config_eq]
  decide

end Service

end GuardedCache

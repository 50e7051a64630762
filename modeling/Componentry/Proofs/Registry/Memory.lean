import Componentry.Proofs.Ensemble.Basic
import Componentry.Proofs.Registry.Ledger
import Mathlib.Data.List.Basic

/-!
# Platforms in memory

A registry in memory answers at once: nothing runs while it is being called. It may
refuse a call, and then nothing is known of what it holds. As long as it has not, it
holds one record for each registered service, with its handle, its specifications, its
factory and its visible properties, beside those of others.
-/

namespace Componentry

variable {σ α : Type}

@[simp] theorem Service.ensures_push_none (out : Collaborators σ) (r : Ref .service)
    (rounds : Nat) {w : World σ} {post : Except Failure Unit → World σ → Prop} :
    (Service.push out r rounds none).Ensures w post ↔ post (.ok ()) w := by
  rw [Service.push.eq_def]
  exact Run.ensures_pure _

/-- What the surroundings keep account of. -/
structure Books where
  registry : Registry
  /-- The announced events. -/
  events : List Event
  /-- Whether the registry has refused a call. -/
  refused : Bool
  /-- The latest configuration that was delivered. -/
  latest : Option Properties

/-- A call of the registry that is answered at once. -/
inductive Prompt (books : σ → Books) (ask : Registry → Except Failure (α × Registry))
    (w w' : World σ) : Except Failure α → Prop
  | served {a : α} {after : Registry} (hplatform : w'.platform = w.platform)
      (hask : ask (books w.surroundings).registry = .ok (a, after))
      (hbooks : books w'.surroundings = { books w.surroundings with registry := after }) :
      Prompt books ask w w' (.ok a)
  | failed {failure : Failure} (hidle : Idle books w w')
      (hask : ask (books w.surroundings).registry = .error failure) :
      Prompt books ask w w' (.error failure)
  | refused {failure : Failure} {after : Registry} (hplatform : w'.platform = w.platform)
      (hbooks : books w'.surroundings =
        { books w.surroundings with registry := after, refused := true }) :
      Prompt books ask w w' (.error failure)

/-- Collaborators whose registry is the one in the books, and that take turns only while
a method is called. -/
structure InMemory (books : σ → Books) (callbacks : World σ → World σ → Prop)
    (out : Collaborators σ) : Prop where
  log : ∀ record s, books (out.log record s) = books s
  announce : ∀ event s,
    books (out.announce event s) = { books s with events := (books s).events ++ [event] }
  register : ∀ specifications properties factory w,
    (out.register specifications properties factory).Ensures w fun answer w' =>
      Prompt books (·.register specifications properties factory) w w' answer
  unregister : ∀ handle w, (out.unregister handle).Ensures w fun answer w' =>
    Prompt books (·.askUnregister handle) w w' answer
  update : ∀ handle properties w, (out.update handle properties).Ensures w fun answer w' =>
    Prompt books (·.askUpdate handle properties) w w' answer
  publish : ∀ identity properties target w,
    (out.publish identity properties target).Ensures w fun _ => Idle books w
  withdraw : ∀ handle w, (out.withdraw handle).Ensures w fun _ => Idle books w
  call : ∀ number component w,
    (out.call number component).Ensures w fun _ => Turn (Idle books) callbacks w

/-- Collaborators with a registry in memory, and methods that run. -/
def Collaborators.inMemory (registry : σ → Registry) (store : Registry → σ → σ)
    (announce : Event → σ → σ) (method : Nat → Run σ Ending) : Collaborators σ where
  log _ t := t
  announce := announce
  register specifications properties factory :=
    askRegistry registry store (·.register specifications properties factory)
  unregister handle := askRegistry registry store (·.askUnregister handle)
  update handle properties := askRegistry registry store (·.askUpdate handle properties)
  publish _ _ _ := return .ok ⟨0⟩
  withdraw _ := return .ok ()
  call number _ := method number
  configure _ _ _ _ := return
  notify _ _ := return
  read _ _ value := return value
  ready _ := return true
  rounds := 1

/-- The collaborators with a host that is kept in the surroundings. -/
def Collaborators.hosting (host : σ → Host Target) (keep : Host Target → σ → σ)
    (out : Collaborators σ) : Collaborators σ :=
  { out with
    publish := fun identity properties target => do
      let (handle, after) := (host (← Run.surroundings)).publish identity properties target
      Run.changeSurroundings (keep after)
      return .ok handle
    withdraw := fun handle => do
      match (host (← Run.surroundings)).withdraw handle with
      | .ok after =>
          Run.changeSurroundings (keep after)
          return .ok ()
      | .error failure => return .error failure }

section InMemory

variable {books : σ → Books} {registry : σ → Registry} {store : Registry → σ → σ}
  (hregistry : ∀ t, (books t).registry = registry t)
  (hstore : ∀ after t, books (store after t) = { books t with registry := after })
include hregistry hstore

theorem prompt_askRegistry (ask : Registry → Except Failure (α × Registry)) (w : World σ) :
    (askRegistry registry store ask).Ensures w fun answer w' => Prompt books ask w w' answer := by
  simp only [askRegistry, Run.ensures_bind, Run.ensures_surroundings]
  split
  next a after hask =>
    simp only [Run.ensures_bind, Run.ensures_changeSurroundings, Run.ensures_pure]
    rw [← hregistry] at hask
    exact .served rfl hask (hstore after w.surroundings)
  next failure hask =>
    rw [← hregistry] at hask
    exact (Run.ensures_pure _).mpr (.failed ⟨rfl, rfl⟩ hask)

theorem inMemory_of_method {announce : Event → σ → σ} {method : Nat → Run σ Ending}
    {callbacks : World σ → World σ → Prop}
    (hannounce : ∀ event t,
      books (announce event t) = { books t with events := (books t).events ++ [event] })
    (hmethod : ∀ number w, (method number).Ensures w fun _ => Turn (Idle books) callbacks w) :
    InMemory books callbacks (.inMemory registry store announce method) where
  log _ _ := rfl
  announce := hannounce
  register specifications properties factory :=
    prompt_askRegistry hregistry hstore (·.register specifications properties factory)
  unregister handle := prompt_askRegistry hregistry hstore (·.askUnregister handle)
  update handle properties := prompt_askRegistry hregistry hstore (·.askUpdate handle properties)
  publish _ _ _ _ := (Run.ensures_pure _).mpr ⟨rfl, rfl⟩
  withdraw _ _ := (Run.ensures_pure _).mpr ⟨rfl, rfl⟩
  call number _ := hmethod number

end InMemory

/-- The record that the registry is to show of a service, if it is registered. -/
def Service.record? (service : Service) : Option ServiceRecord :=
  service.registration.map fun handle =>
    ⟨handle, service.specifications, service.visible, service.declared.factory⟩

/-- What one element of a list contributes can be taken to the front. -/
theorem filterMap_perm_erase {β : Type} [DecidableEq α] (f : α → Option β) {items : List α} {a : α}
    (ha : a ∈ items) :
    (items.filterMap f).Perm ((f a).toList ++ (items.erase a).filterMap f) := by
  apply ((List.perm_cons_erase ha).filterMap f).trans
  rw [List.filterMap_cons]
  cases f a <;> exact .refl _

namespace Ensemble

variable (e : Ensemble) (others : List ServiceRecord) (w : World σ)

/-- The records of others with those of the registered services of the ensemble. -/
def records : List ServiceRecord := others ++ e.services.filterMap fun s => (w.service s).record?

/-- The records beside that of one service. -/
def recordsBeside (s : Ref .service) : List ServiceRecord :=
  others ++ (e.services.erase s).filterMap fun t => (w.service t).record?

variable {e others w}

theorem records_perm {s : Ref .service} (hs : s ∈ e.services) :
    (e.records others w).Perm ((w.service s).record?.toList ++ e.recordsBeside others w s) := by
  have hsplit := filterMap_perm_erase (fun t => (w.service t).record?) hs
  refine (hsplit.append_left others).trans ?_
  rw [recordsBeside, ← List.append_assoc, ← List.append_assoc]
  exact List.perm_append_comm.append_right _

theorem records_of_unregistered
    (hfree : ∀ s ∈ e.services, (w.service s).registration = none) :
    e.records others w = others := by
  rw [records, List.filterMap_eq_nil_iff.mpr, List.append_nil]
  intro s hs
  rw [Service.record?, hfree s hs, Option.map_none]

theorem recordsBeside_eq {w' : World σ} {s : Ref .service} (hdistinct : e.services.Nodup)
    (hothers : ∀ t, t ≠ s → w'.service t = w.service t) :
    e.recordsBeside others w' s = e.recordsBeside others w s := by
  have hcongr : (e.services.erase s).filterMap (fun t => (w'.service t).record?) =
      (e.services.erase s).filterMap fun t => (w.service t).record? := by
    refine List.filterMap_congr fun t ht => ?_
    rw [hothers t (hdistinct.mem_erase_iff.mp ht).1]
  rw [recordsBeside, recordsBeside, hcongr]

end Ensemble

/-- The registry holds the records of the registered services of an ensemble beside those of
others, unless it has refused a call. -/
structure Kept (books : σ → Books) (others : List ServiceRecord) (e : Ensemble)
    (w : World σ) : Prop where
  distinct : e.services.Nodup
  specified : ∀ s ∈ e.services, (w.service s).specifications ≠ []
  ledger : (books w.surroundings).refused = false →
    (books w.surroundings).registry.Holds (e.records others w)

/-- The ensemble stands, and the registry holds its records. -/
structure Sound (books : σ → Books) (others : List ServiceRecord) (e : Ensemble)
    (w : World σ) : Prop extends Kept books others e w where
  stands : e.Stands w

/-- Nothing is announced and no update delivered between two worlds, and what the
registry has refused it has refused. -/
structure Unheard (books : σ → Books) (w w' : World σ) : Prop where
  events : (books w'.surroundings).events = (books w.surroundings).events
  latest : (books w'.surroundings).latest = (books w.surroundings).latest
  refused : (books w.surroundings).refused = true → (books w'.surroundings).refused = true

variable {books : σ → Books} {others : List ServiceRecord} {e : Ensemble} {w w' : World σ}
  {s : Ref .service}

theorem Unheard.of_setService {service : Service}
    (hunheard : Unheard books (w.setService s service) w') : Unheard books w w' :=
  ⟨hunheard.events, hunheard.latest, hunheard.refused⟩

theorem Unheard.refused_eq_false (hunheard : Unheard books w w')
    (hserved : (books w'.surroundings).refused = false) :
    (books w.surroundings).refused = false := by
  rw [← Bool.not_eq_true]
  intro hrefused
  rw [hunheard.refused hrefused] at hserved
  cases hserved

/-- A change of a service leaves how the ensemble stands. -/
theorem Ensemble.Stands.of_setService {service : Service} (hstands : e.Stands w)
    (hplatform : w'.platform = (w.setService s service).platform) : e.Stands w' := by
  obtain ⟨hcomponent, -, -, hprovider, hconfigurator, hcaller⟩ :=
    World.objects_of_platform hplatform
  have hframe := World.setService_frame w s service
  constructor
  · rw [hcomponent, hframe.2.1, hstands.owned]
  · rw [hcomponent, hframe.2.1]
    exact hstands.handlers
  · rw [hprovider, hframe.2.2.2.1, hstands.provider]
  · rw [hcomponent, hframe.2.1]
    exact hstands.registered
  · rw [hconfigurator, hframe.2.2.2.2.1, hstands.configurator]
  · rw [hconfigurator, hframe.2.2.2.2.1, hstands.properties]
  · rw [hcaller, hframe.2.2.2.2.2, hstands.caller]

/-- A service is changed, and the registry holds its new record in place of the old one. -/
theorem Kept.of_setService {service : Service} (hw : Kept books others e w)
    (hs : s ∈ e.services) (hplatform : w'.platform = (w.setService s service).platform)
    (hdeclared : service.declared = (w.service s).declared)
    (hledger : (books w'.surroundings).refused = false → (books w'.surroundings).registry.Holds
      (service.record?.toList ++ e.recordsBeside others w s)) : Kept books others e w' := by
  have hservice : ∀ t, w'.service t = if t = s then service else w.service t := by
    intro t
    rw [(World.objects_of_platform hplatform).2.1, World.service_setService]
  refine ⟨hw.distinct, ?_, ?_⟩
  · intro t ht
    rw [hservice]
    split
    · rw [Service.specifications, hdeclared]
      exact hw.specified s hs
    · exact hw.specified t ht
  · intro hserved
    refine (hledger hserved).of_perm ?_
    have hbeside : e.recordsBeside others w' s = e.recordsBeside others w s := by
      refine Ensemble.recordsBeside_eq hw.distinct fun t ht => ?_
      rw [hservice, if_neg ht]
    have hperm : (e.records others w').Perm
        ((w'.service s).record?.toList ++ e.recordsBeside others w' s) := Ensemble.records_perm hs
    rw [hbeside, hservice, if_pos rfl] at hperm
    exact hperm.symm

/-- No service has changed. -/
theorem Kept.of_service (hw : Kept books others e w) (hservice : w'.service = w.service)
    (hledger : (books w'.surroundings).refused = false →
      (books w'.surroundings).registry.Holds (e.records others w)) : Kept books others e w' := by
  refine ⟨hw.distinct, ?_, ?_⟩
  · rw [hservice]
    exact hw.specified
  · rw [Ensemble.records, hservice]
    exact hledger

theorem Sound.of_service (hw : Sound books others e w) (hstands : e.Stands w')
    (hservice : w'.service = w.service)
    (hledger : (books w'.surroundings).refused = false →
      (books w'.surroundings).registry.Holds (e.records others w)) : Sound books others e w' :=
  ⟨hw.toKept.of_service hservice hledger, hstands⟩

theorem Sound.of_platform (hw : Sound books others e w) (hplatform : w'.platform = w.platform)
    (hledger : (books w'.surroundings).refused = false →
      (books w'.surroundings).registry.Holds (e.records others w)) : Sound books others e w' :=
  hw.of_service (hw.stands.of_platform hplatform) (World.objects_of_platform hplatform).2.1 hledger

/-- An operation has replaced a service, and the registry knows. -/
structure Replaced (books : σ → Books) (others : List ServiceRecord) (e : Ensemble)
    (s : Ref .service) (service : Service) (w w' : World σ) : Prop where
  platform : w'.platform = (w.setService s service).platform
  kept : Kept books others e w'
  unheard : Unheard books w w'

theorem Replaced.sound {service : Service} (h : Replaced books others e s service w w')
    (hstands : e.Stands w) : Sound books others e w' :=
  ⟨h.kept, hstands.of_setService h.platform⟩

theorem Replaced.service_eq {service : Service} (h : Replaced books others e s service w w')
    (t : Ref .service) : w'.service t = if t = s then service else w.service t := by
  rw [(World.objects_of_platform h.platform).2.1, World.service_setService]

theorem Replaced.component_eq {service : Service} (h : Replaced books others e s service w w') :
    w'.component = w.component :=
  (World.objects_of_platform h.platform).1.trans (World.setService_frame w s service).2.1

theorem Replaced.of_ledger {service : Service} (hw : Kept books others e w)
    (hs : s ∈ e.services) (hdeclared : service.declared = (w.service s).declared)
    (hplatform : w'.platform = (w.setService s service).platform) (hunheard : Unheard books w w')
    (hledger : (books w'.surroundings).refused = false → (books w'.surroundings).registry.Holds
      (service.record?.toList ++ e.recordsBeside others w s)) :
    Replaced books others e s service w w' :=
  ⟨hplatform, hw.of_setService hs hplatform hdeclared hledger, hunheard⟩

/-- The number of records changes with the registration of the service. -/
theorem Replaced.length {service : Service} (h : Replaced books others e s service w w')
    (hw : Kept books others e w) (hs : s ∈ e.services)
    (hserved : (books w'.surroundings).refused = false) :
    (books w'.surroundings).registry.records.length + (w.service s).record?.toList.length =
      (books w.surroundings).registry.records.length + service.record?.toList.length := by
  have hbefore := ((hw.ledger (h.unheard.refused_eq_false hserved)).of_perm
    (Ensemble.records_perm hs)).perm.length_eq
  have hbehind := ((h.kept.ledger hserved).of_perm (Ensemble.records_perm hs)).perm.length_eq
  have hbeside : e.recordsBeside others w' s = e.recordsBeside others w s := by
    refine Ensemble.recordsBeside_eq hw.distinct fun t ht => ?_
    rw [h.service_eq, if_neg ht]
  rw [List.length_append] at hbefore hbehind
  rw [hbeside, h.service_eq, if_pos rfl] at hbehind
  omega

section Services

/-- The registry holds the record of a registered service. -/
theorem Kept.holds_cons (hw : Kept books others e w) (hs : s ∈ e.services)
    {handle : Registration} (hheld : (w.service s).registration = some handle)
    (hserved : (books w.surroundings).refused = false) :
    (books w.surroundings).registry.Holds
      (⟨handle, (w.service s).specifications, (w.service s).visible,
        (w.service s).declared.factory⟩ :: e.recordsBeside others w s) := by
  have hholds := (hw.ledger hserved).of_perm (Ensemble.records_perm hs)
  rw [Service.record?, hheld] at hholds
  exact hholds

/-- The registry holds no record of a service that is not registered. -/
theorem Kept.holds_beside (hw : Kept books others e w) (hs : s ∈ e.services)
    (hfree : (w.service s).registration = none)
    (hserved : (books w.surroundings).refused = false) :
    (books w.surroundings).registry.Holds (e.recordsBeside others w s) := by
  have hholds := (hw.ledger hserved).of_perm (Ensemble.records_perm hs)
  rw [Service.record?, hfree] at hholds
  exact hholds

variable {callbacks : World σ → World σ → Prop} {out : Collaborators σ}

theorem Prompt.unheard {ask : Registry → Except Failure (α × Registry)} {answer : Except Failure α}
    (hprompt : Prompt books ask w w' answer) : Unheard books w w' := by
  cases hprompt with
  | served _ _ hbooks => exact ⟨by rw [hbooks], by rw [hbooks], by rw [hbooks]; exact id⟩
  | failed hidle _ => exact ⟨by rw [hidle.2], by rw [hidle.2], by rw [hidle.2]; exact id⟩
  | refused _ hbooks => exact ⟨by rw [hbooks], by rw [hbooks], by rw [hbooks]; exact fun _ => rfl⟩

theorem Prompt.platform {ask : Registry → Except Failure (α × Registry)} {answer : Except Failure α}
    (hprompt : Prompt books ask w w' answer) : w'.platform = w.platform := by
  cases hprompt with
  | served hplatform _ _ => exact hplatform
  | failed hidle _ => exact hidle.1
  | refused hplatform _ => exact hplatform

/-- An update of a registered handle replaces the properties of its record. -/
theorem Prompt.update {handle : Registration} {record : ServiceRecord}
    {rest : List ServiceRecord} {properties : Properties} {answer : Except Failure Unit}
    (hprompt : Prompt books (·.askUpdate handle properties) w w' answer)
    (hholds : (books w.surroundings).refused = false →
      (books w.surroundings).registry.Holds (record :: rest)) (hhandle : record.handle = handle)
    (hserved : (books w'.surroundings).refused = false) :
    (books w'.surroundings).registry.Holds ({ record with properties := properties } :: rest) := by
  subst hhandle
  have hbefore := hholds (hprompt.unheard.refused_eq_false hserved)
  cases hprompt with
  | served _ hask hbooks =>
      rw [hbooks]
      exact hbefore.update (Registry.askUpdate_ok hask)
  | failed _ hask =>
      have hknown := hbefore.isRegistered List.mem_cons_self
      rw [Registry.askUpdate_error hask] at hknown
      cases hknown
  | refused _ hbooks =>
      rw [hbooks] at hserved
      cases hserved

/-- Taking back a registered handle removes its record. -/
theorem Prompt.unregister {handle : Registration} {record : ServiceRecord}
    {rest : List ServiceRecord} {answer : Except Failure Unit}
    (hprompt : Prompt books (·.askUnregister handle) w w' answer)
    (hholds : (books w.surroundings).refused = false →
      (books w.surroundings).registry.Holds (record :: rest)) (hhandle : record.handle = handle)
    (hserved : (books w'.surroundings).refused = false) :
    answer = .ok () ∧ (books w'.surroundings).registry.Holds rest := by
  subst hhandle
  have hbefore := hholds (hprompt.unheard.refused_eq_false hserved)
  cases hprompt with
  | served _ hask hbooks =>
      rw [hbooks]
      exact ⟨rfl, hbefore.unregister (Registry.askUnregister_ok hask)⟩
  | failed _ hask =>
      have hknown := hbefore.isRegistered List.mem_cons_self
      rw [Registry.askUnregister_error hask] at hknown
      cases hknown
  | refused _ hbooks =>
      rw [hbooks] at hserved
      cases hserved

/-- The world behind an operation that may change a service. -/
def Follows (books : σ → Books) (others : List ServiceRecord) (e : Ensemble) (s : Ref .service) :
    Option Service → World σ → World σ → Prop
  | none, w, w' => w' = w
  | some service, w, w' => Replaced books others e s service w w'

/-- A step that replaces a service or does nothing is allowed where replacing it is. -/
theorem Follows.allows {R : Regime σ} {change : Option Service}
    (h : Follows books others e s change w w')
    (hreplaced : ∀ service, change = some service → Replaced books others e s service w w' →
      R.Allows w w') : R.Allows w w' := by
  cases change with
  | none =>
      cases h
      exact .refl _
  | some service => exact hreplaced service rfl h

variable (hout : InMemory books callbacks out)
include hout

/-- A change of a service in memory: it is sent to the registry at most once. -/
theorem ensures_commit_prompt {changed : Service} (hw : Kept books others e w)
    (hs : s ∈ e.services) (hrevised : (w.service s).Revised changed) :
    (Service.commit out s changed).Ensures w fun _ => Replaced books others e s changed w := by
  simp only [Service.commit, Run.ensures_bind, Run.ensures_setService]
  cases hheld : changed.registration with
  | none =>
      rw [Service.snapshot, hheld, Option.map_none, Service.ensures_push_none]
      refine .of_ledger hw hs hrevised.declared rfl ⟨rfl, rfl, id⟩ fun hserved => ?_
      rw [Service.record?, hheld]
      exact hw.holds_beside hs (hrevised.registration.symm.trans hheld) hserved
  | some handle =>
      rw [Service.snapshot, hheld, Option.map_some]
      cases out.rounds with
      | zero => exact Run.ensures_giveUp
      | succ rounds =>
          simp only [Service.push, Run.ensures_bind, Run.ensures_service]
          refine (hout.update _ _ _).mono ?_
          intro answer w' hprompt
          -- The registry has not called back, so the service is as it was sent.
          have hservice : w'.service s = changed := by
            rw [(World.objects_of_platform hprompt.platform).2.1, World.service_setService,
              if_pos rfl]
          have hreplaced : Replaced books others e s changed w w' := by
            refine .of_ledger hw hs hrevised.declared hprompt.platform
              hprompt.unheard.of_setService ?_
            intro hserved
            rw [Service.record?, hheld, Service.specifications, hrevised.declared]
            exact hprompt.update (hw.holds_cons hs (hrevised.registration.symm.trans hheld)) rfl
              hserved
          rw [hservice, if_neg (by simp [hheld])]
          split
          · exact (Run.ensures_pure _).mpr hreplaced
          · rw [if_neg (by simp), Service.ensures_push_none]
            exact hreplaced

theorem ensures_write_prompt (hw : Kept books others e w) (hs : s ∈ e.services)
    (field : String) (value : Value) :
    (Service.write out s field value).Ensures w fun _ =>
      Follows books others e s ((w.service s).written? field value) w := by
  simp only [Service.write, Run.ensures_bind, Run.ensures_service]
  split
  next hsame =>
    rw [hsame]
    exact (Run.ensures_pure _).mpr rfl
  next changed hwritten =>
    rw [hwritten]
    simp only [Run.ensures_bind, Run.ensures_pure]
    exact ensures_commit_prompt hout hw hs (Service.written?_eq_some hwritten).1

theorem ensures_extend_prompt (hw : Kept books others e w) (hs : s ∈ e.services)
    (entries : Properties) :
    (Service.extend out s entries).Ensures w fun _ =>
      Follows books others e s ((w.service s).extended? entries) w := by
  simp only [Service.extend, Run.ensures_bind, Run.ensures_service]
  split
  next hsame =>
    rw [hsame]
    exact (Run.ensures_pure _).mpr rfl
  next changed hextended =>
    rw [hextended]
    exact ensures_commit_prompt hout hw hs (Service.extended?_eq_some hextended).1

theorem ensures_reduce_prompt (hw : Kept books others e w) (hs : s ∈ e.services)
    (entries : Properties) :
    (Service.reduce out s entries).Ensures w fun _ =>
      Follows books others e s ((w.service s).reduced? entries) w := by
  simp only [Service.reduce, Run.ensures_bind, Run.ensures_service]
  split
  next hsame =>
    rw [hsame]
    exact (Run.ensures_pure _).mpr rfl
  next changed hreduced =>
    rw [hreduced]
    exact ensures_commit_prompt hout hw hs (Service.reduced?_eq_some hreduced).1

/-- A registration in memory: the service holds a handle, or the registry has refused. -/
theorem ensures_register_prompt (hw : Kept books others e w) (hs : s ∈ e.services)
    (hfree : (w.service s).registration = none) :
    (Service.register out s).Ensures w fun answer w' =>
      (answer = .ok true ∧ ∃ handle,
        Replaced books others e s { w.service s with registration := some handle } w w') ∨
      ((∃ failure, answer = .error failure) ∧ (books w'.surroundings).refused = true ∧
        w'.platform = w.platform ∧ Kept books others e w' ∧ Unheard books w w') := by
  simp only [Service.register, Run.ensures_bind, Run.ensures_service, hfree, Option.isSome_none,
    Bool.false_eq_true, if_false]
  refine (hout.register _ _ _ w).mono ?_
  intro answer v hprompt
  have hunheard := hprompt.unheard
  cases hprompt with
  | failed hidle hask => exact absurd (Registry.register_error hask) (hw.specified s hs)
  | refused hplatform hbooks =>
      have hrefused : (books v.surroundings).refused = true := by rw [hbooks]
      refine (Run.ensures_pure _).mpr (.inr ⟨⟨_, rfl⟩, hrefused, hplatform, ?_, hunheard⟩)
      refine hw.of_service (World.objects_of_platform hplatform).2.1 fun hserved => ?_
      rw [hrefused] at hserved
      cases hserved
  | @served handle after hplatform hask hbooks =>
      have hservice : v.service s = w.service s :=
        congrFun (World.objects_of_platform hplatform).2.1 s
      have hreplaced : Replaced books others e s
          { w.service s with registration := some handle } w (v.setRegistration s (some handle)) := by
        refine .of_ledger hw hs rfl ?_ ⟨hunheard.events, hunheard.latest, hunheard.refused⟩ ?_
        · rw [World.setRegistration, hservice]
          exact World.setService_platform hplatform s _
        · intro hserved
          have hholds := hw.holds_beside hs hfree (hunheard.refused_eq_false hserved)
          have hafter := hholds.register hask
          rw [← show (books v.surroundings).registry = after by rw [hbooks]] at hafter
          exact hafter
      simp only [Run.ensures_bind, Run.ensures_service, Run.ensures_setService, hservice,
        ne_eq, not_true_eq_false, if_false, Service.ensures_push_none, Run.ensures_pure]
      refine .inl ⟨rfl, handle, ?_⟩
      rw [World.setRegistration, hservice] at hreplaced
      exact hreplaced

/-- Taking back a registration in memory: the service holds no handle, and the registry
has taken it back or has refused to. -/
theorem ensures_unregister_prompt (hw : Kept books others e w) (hs : s ∈ e.services)
    {handle : Registration} (hheld : (w.service s).registration = some handle) :
    (Service.unregister out s).Ensures w fun answer w' =>
      Replaced books others e s { w.service s with registration := none } w w' ∧
        (answer = .ok true ∨
          (∃ failure, answer = .error failure) ∧ (books w'.surroundings).refused = true) := by
  simp only [Service.unregister, Run.ensures_bind, Run.ensures_service, hheld,
    Run.ensures_setService, Run.ensures_pure]
  refine (hout.unregister handle (w.setRegistration s none)).mono ?_
  intro answer w' hprompt
  have hholds := hprompt.unregister (hw.holds_cons hs hheld) rfl
  have hreplaced : Replaced books others e s { w.service s with registration := none } w w' :=
    .of_ledger hw hs rfl hprompt.platform hprompt.unheard.of_setService
      fun hserved => (hholds hserved).2
  refine ⟨hreplaced, ?_⟩
  cases hrefused : (books w'.surroundings).refused with
  | false =>
      rw [(hholds hrefused).1]
      exact .inl rfl
  | true =>
      cases answer with
      | ok u => exact .inl rfl
      | error failure => exact .inr ⟨⟨failure, rfl⟩, rfl⟩

variable {R : Regime σ} (hkept : ∀ {w}, R.holds w → Kept books others e w)
include hkept

/-- Registering a service stays in a regime that minds neither its handle nor a registry that
refuses. -/
theorem keeps_register_prompt (hs : s ∈ e.services)
    (hreplaced : ∀ {w w' registration},
      Replaced books others e s { w.service s with registration := registration } w w' →
        R.Allows w w')
    (hrefused : ∀ {w w'}, w'.platform = w.platform → Kept books others e w' →
      Unheard books w w' → R.Allows w w') : R.Keeps (Service.register out s) := by
  intro w hw
  cases hheld : (w.service s).registration with
  | some handle =>
      simp only [Service.register, Run.ensures_bind, Run.ensures_service, hheld,
        Option.isSome_some, if_true, Run.ensures_pure]
      exact .refl w
  | none =>
      refine (ensures_register_prompt hout (hkept hw) hs hheld).mono ?_
      rintro answer w' (⟨-, handle, hregistered⟩ | ⟨-, -, hplatform, hkept', hunheard⟩)
      · exact hreplaced hregistered
      · exact hrefused hplatform hkept' hunheard

/-- So does taking back its registration. -/
theorem keeps_unregister_prompt (hs : s ∈ e.services)
    (hreplaced : ∀ {w w' registration},
      Replaced books others e s { w.service s with registration := registration } w w' →
        R.Allows w w') : R.Keeps (Service.unregister out s) := by
  intro w hw
  cases hheld : (w.service s).registration with
  | none =>
      simp only [Service.unregister, Run.ensures_bind, Run.ensures_service, hheld,
        Run.ensures_pure]
      exact .refl w
  | some handle =>
      refine (ensures_unregister_prompt hout (hkept hw) hs hheld).mono ?_
      rintro answer w' ⟨hunregistered, -⟩
      exact hreplaced hunregistered

end Services

end Componentry

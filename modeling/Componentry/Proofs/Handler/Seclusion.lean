import Componentry.Proofs.Endpoint.Publishing
import Componentry.Proofs.Handler.Sides

/-!
# Secluded collaborators

Collaborators are secluded if nobody calls back: the registry and the host answer at once,
and what methods and guests do has no effect on the platform or on them. Then what is asked
of a handler is all on the side of the handler, and comes to an end.
-/

namespace Componentry

variable {σ κ α : Type}

/-- What a keeper answers when it is asked, and what it is behind that. One that refuses
stays as it is. -/
def reply (ask : κ → Except Failure (α × κ)) (keeper : κ) : Except Failure α × κ :=
  match ask keeper with
  | .ok (a, after) => (.ok a, after)
  | .error failure => (.error failure, keeper)

/-- The registry has been asked, and nothing else has happened. -/
structure FromRegistry (premises : σ → Premises) (ask : Registry → Except Failure (α × Registry))
    (w : World σ) (answer : Except Failure α) (w' : World σ) : Prop where
  platform : w'.platform = w.platform
  host : (premises w'.surroundings).host = (premises w.surroundings).host
  replies : (answer, (premises w'.surroundings).registry) =
    reply ask (premises w.surroundings).registry

/-- The host has been asked, and nothing else has happened. -/
structure FromHost (premises : σ → Premises) (ask : Host Target → Except Failure (α × Host Target))
    (w : World σ) (answer : Except Failure α) (w' : World σ) : Prop where
  platform : w'.platform = w.platform
  registry : (premises w'.surroundings).registry = (premises w.surroundings).registry
  replies : (answer, (premises w'.surroundings).host) = reply ask (premises w.surroundings).host

/-- Collaborators that call nobody back. -/
structure Secluded (premises : σ → Premises) (out : Collaborators σ) : Prop where
  log : ∀ record t, premises (out.log record t) = premises t
  announce : ∀ event t, premises (out.announce event t) = premises t
  register : ∀ specifications properties factory w,
    (out.register specifications properties factory).Returns w
      (FromRegistry premises (·.register specifications properties factory) w)
  unregister : ∀ handle w,
    (out.unregister handle).Returns w (FromRegistry premises (·.askUnregister handle) w)
  update : ∀ handle properties w,
    (out.update handle properties).Returns w
      (FromRegistry premises (·.askUpdate handle properties) w)
  publish : ∀ identity properties target w,
    (out.publish identity properties target).Returns w
      (FromHost premises (·.askPublish identity properties target) w)
  withdraw : ∀ handle w,
    (out.withdraw handle).Returns w (FromHost premises (·.askWithdraw handle) w)
  call : ∀ number component, Idles premises (out.call number component)
  configure : ∀ number component descriptor configuration,
    Idles premises (out.configure number component descriptor configuration)
  notify : ∀ number notice, Idles premises (out.notify number notice)
  read : ∀ number field value w, (out.read number field value).Returns w fun answer w' =>
    answer = value ∧ Idle premises w w'
  ready : ∀ number w, (out.ready number).Returns w fun answer w' =>
    answer = true ∧ Idle premises w w'
  rounds : 0 < out.rounds

section Asked

variable {premises : σ → Premises} {sides : List Side} {u u₁ u₂ w w₁ w₂ : World σ}
  {a₁ a₂ : Except Failure α}

/-- Akin worlds are so behind a question to the registry, and the answers are the same. -/
theorem FromRegistry.akin {ask : Registry → Except Failure (α × Registry)}
    (hside : .provider ∈ sides) (h : Akin premises sides w₁ w₂)
    (h₁ : FromRegistry premises ask w₁ a₁ u₁) (h₂ : FromRegistry premises ask w₂ a₂ u₂) :
    Akin premises sides u₁ u₂ ∧ a₁ = a₂ := by
  have hsame := h₁.replies
  rw [(h.offered hside).2.2.2, ← h₂.replies] at hsame
  obtain ⟨hanswer, hregistry⟩ := Prod.mk.inj hsame
  refine ⟨h.of_platform h₁.platform h₂.platform (fun _ => hregistry) fun hbound => ?_, hanswer⟩
  rw [h₁.host, h₂.host]
  exact (h.bound hbound).2.2.2

theorem FromRegistry.aside {ask : Registry → Except Failure (α × Registry)}
    (h : FromRegistry premises ask w a₁ u) (hother : .provider ∉ sides) :
    Akin premises sides w u :=
  (Akin.refl w).of_platform rfl h.platform (fun hside => absurd hside hother)
    fun _ => h.host.symm

theorem within_askRegistry {m : Run σ (Except Failure α)}
    {ask : Registry → Except Failure (α × Registry)}
    (hm : ∀ w, m.Returns w (FromRegistry premises ask w)) : Within premises .provider m where
  meets sides hside w₁ w₂ h := by
    refine (hm w₁).mono fun a u₁ h₁ => ?_
    exact (hm w₂).mono fun b u₂ h₂ => h₁.akin hside h h₂
  aside w := (hm w).mono fun _ _ h _ hother => h.aside hother

theorem within_askHost {m : Run σ (Except Failure α)}
    {ask : Host Target → Except Failure (α × Host Target)}
    (hm : ∀ w, m.Returns w (FromHost premises ask w)) : Within premises .configurator m where
  meets sides hside w₁ w₂ h := by
    refine (hm w₁).mono fun a u₁ h₁ => ?_
    refine (hm w₂).mono fun b u₂ h₂ => ?_
    have hsame := h₁.replies
    rw [(h.bound hside).2.2.2, ← h₂.replies] at hsame
    obtain ⟨hanswer, hhost⟩ := Prod.mk.inj hsame
    refine ⟨h.of_platform h₁.platform h₂.platform (fun hoffered => ?_) fun _ => hhost, hanswer⟩
    rw [h₁.registry, h₂.registry]
    exact (h.offered hoffered).2.2.2
  aside w := by
    refine (hm w).mono fun _ u h others hother => ?_
    exact (Akin.refl w).of_platform rfl h.platform (fun _ => h.registry.symm)
      fun hside => absurd hside hother

end Asked

/-- Tell the registry of a pending update, if there is one. -/
def Update.askPending : Option Update → Registry → Except Failure (Unit × Registry)
  | none, registry => .ok ((), registry)
  | some update, registry => registry.askUpdate update.handle update.properties

section Handlers

variable {premises : σ → Premises} {side : Side} {out : Collaborators σ}
  (hout : Secluded premises out)
include hout

theorem idles_note (record : Log.Record) : Idles premises (out.note record) := by
  intro w
  rw [Collaborators.note, Run.returns_changeSurroundings]
  exact ⟨rfl, hout.log record _⟩

theorem idles_tell (event : Event) : Idles premises (out.tell event) := by
  intro w
  rw [Collaborators.tell, Run.returns_changeSurroundings]
  exact ⟨rfl, hout.announce event _⟩

theorem within_note (record : Log.Record) : Within premises side (out.note record) :=
  (idles_note hout record).within

theorem within_noteAll (records : List Log.Record) : Within premises side (out.noteAll records) :=
  .forM fun record _ => within_note hout record

theorem within_noteCaught (component operation : String) (failure : Failure)
    (context : Option String) :
    Within premises side (out.noteCaught component operation failure context) :=
  within_note hout _

theorem within_tell (event : Event) : Within premises side (out.tell event) :=
  (idles_tell hout event).within

/-! ## Providers -/

/-- One update is enough where nobody changes the service meanwhile. -/
theorem returns_push_secluded (r : Ref .service) {pending : Option Update} {w : World σ}
    (hpending : ∀ update ∈ pending, (w.service r).registration = some update.handle ∧
      (w.service r).revision = update.revision) :
    (Service.push out r out.rounds pending).Returns w
      (FromRegistry premises (Update.askPending pending) w) := by
  obtain ⟨rounds, hrounds⟩ := Nat.exists_eq_succ_of_ne_zero (Nat.ne_of_gt hout.rounds)
  rw [hrounds]
  cases pending with
  | none =>
      simp only [Service.push, Run.returns_pure]
      exact ⟨rfl, rfl, rfl⟩
  | some update =>
      obtain ⟨hheld, hrevision⟩ := hpending update rfl
      simp only [Service.push, Run.returns_bind, Run.returns_service]
      refine (hout.update _ _ w).mono ?_
      intro pushed u hasked
      -- The service is as it was before the call, so there is nothing newer to tell.
      have hpending : FromRegistry premises (Update.askPending (some update)) w pushed u := hasked
      rw [(World.objects_of_platform hasked.platform).2.1, hheld, hrevision]
      cases pushed with
      | error failure => simpa using hpending
      | ok _ => cases rounds <;> simpa [Service.push] using hpending

theorem returns_commit_secluded (r : Ref .service) (changed : Service) (w : World σ) :
    (Service.commit out r changed).Returns w
      (FromRegistry premises (Update.askPending changed.snapshot) (w.setService r changed)) := by
  simp only [Service.commit, Run.returns_bind, Run.returns_setService]
  apply returns_push_secluded hout
  intro update hupdate
  obtain ⟨handle, hheld, rfl⟩ := Option.map_eq_some_iff.mp hupdate
  simp [hheld]

theorem within_commit (r : Ref .service) (changed : Service) :
    Within premises .provider (Service.commit out r changed) where
  meets sides hside w₁ w₂ h := by
    refine (returns_commit_secluded hout r changed w₁).mono fun _ _ h₁ => ?_
    exact (returns_commit_secluded hout r changed w₂).mono fun _ _ h₂ =>
      h₁.akin hside (h.setService hside r changed) h₂
  aside w := by
    refine (returns_commit_secluded hout r changed w).mono fun _ _ h other hother => ?_
    exact (Akin.setService_aside w r changed hother).trans (h.aside hother)

/-- A service that is not registered asks the registry, and holds the handle that it gets. -/
theorem returns_register_secluded (r : Ref .service) (w : World σ) :
    (Service.register out r).Returns w fun answer w' =>
      match (w.service r).registration with
      | some _ => w' = w ∧ answer = .ok false
      | none => ∃ asked u,
          FromRegistry premises (·.register (w.service r).specifications (w.service r).visible
            (w.service r).declared.factory) w asked u ∧
          answer = asked.map (fun _ => true) ∧
          w' = match asked with
            | .ok handle => u.setService r { w.service r with registration := some handle }
            | .error _ => u := by
  simp only [Service.register, Run.returns_bind, Run.returns_service]
  cases hheld : (w.service r).registration with
  | some handle =>
      simp only [Option.isSome_some, if_true]
      exact (Run.returns_pure _).mpr ⟨rfl, rfl⟩
  | none =>
      simp only [Option.isSome_none, Bool.false_eq_true, if_false, Run.returns_bind]
      refine (hout.register _ _ _ w).mono ?_
      intro asked u hasked
      have hservice : u.service = w.service := (World.objects_of_platform hasked.platform).2.1
      cases asked with
      | error failure => exact (Run.returns_pure _).mpr ⟨_, u, hasked, rfl, rfl⟩
      | ok handle =>
          simp only [Run.returns_bind, Run.returns_service, Run.returns_setService, hservice,
            ne_eq, not_true_eq_false, if_false, Service.push, Run.returns_pure]
          exact ⟨_, u, hasked, rfl, rfl⟩

theorem within_register (r : Ref .service) :
    Within premises .provider (Service.register out r) where
  meets sides hside w₁ w₂ h := by
    have hservice : w₁.service r = w₂.service r := congrFun (h.offered hside).2.1 r
    refine (returns_register_secluded hout r w₁).mono fun answer₁ v₁ h₁ => ?_
    refine (returns_register_secluded hout r w₂).mono fun answer₂ v₂ h₂ => ?_
    rw [hservice] at h₁
    split at h₁
    · rename_i hheld
      rw [hheld] at h₂
      obtain ⟨rfl, rfl⟩ := h₁
      obtain ⟨rfl, rfl⟩ := h₂
      exact ⟨h, rfl⟩
    · rename_i hfree
      rw [hfree] at h₂
      obtain ⟨asked₁, u₁, hasked₁, rfl, rfl⟩ := h₁
      obtain ⟨asked₂, u₂, hasked₂, rfl, rfl⟩ := h₂
      -- The answers are the same, so that both services get the handle or neither does.
      obtain ⟨hakin, rfl⟩ := hasked₁.akin hside h hasked₂
      refine ⟨?_, rfl⟩
      cases asked₁ with
      | error failure => exact hakin
      | ok handle => exact hakin.setService hside r _
  aside w := by
    refine (returns_register_secluded hout r w).mono fun answer v h other hother => ?_
    split at h
    · rw [h.1]
      exact .refl w
    · obtain ⟨asked, u, hasked, -, rfl⟩ := h
      cases asked with
      | error failure => exact hasked.aside hother
      | ok handle => exact (hasked.aside hother).trans (.setService_aside u r _ hother)

theorem within_unregister (r : Ref .service) :
    Within premises .provider (Service.unregister out r) := by
  apply (within_service r).bind
  intro service
  split
  · exact .pure _
  · exact (within_setService r _).bind fun _ =>
      (within_askRegistry (hout.unregister _)).bind fun _ => .pure _

theorem within_write (r : Ref .service) (field : String) (value : Value) :
    Within premises .provider (Service.write out r field value) := by
  apply (within_service r).bind
  intro service
  split
  · exact .pure _
  · exact (within_commit hout r _).bind fun _ => .pure _

theorem within_extend (r : Ref .service) (entries : Properties) :
    Within premises .provider (Service.extend out r entries) := by
  apply (within_service r).bind
  intro service
  split
  · exact .pure _
  · exact within_commit hout r _

theorem within_reduce (r : Ref .service) (entries : Properties) :
    Within premises .provider (Service.reduce out r entries) := by
  apply (within_service r).bind
  intro service
  split
  · exact .pure _
  · exact within_commit hout r _

theorem within_offer (component : Ref .component) (declared : ServiceDescriptor)
    (configuration : Properties) :
    Within premises .provider (Provider.offer out component declared configuration) := by
  apply (within_noteAll hout _).bind
  intro _
  exact (within_changeSurface component _).bind fun _ => within_addService _

theorem within_offerAll (component : Ref .component) (descriptor : ComponentDescriptor)
    (configuration : Properties) (elements : List Element) :
    Within premises .provider
      (Provider.offerAll out component descriptor configuration elements) := by
  induction elements with
  | nil => exact .pure []
  | cons e rest ih =>
      apply (within_noteAll hout _).bind
      intro _
      apply (within_noteAll hout _).bind
      intro _
      split
      · exact (within_offer hout component _ configuration).bind fun _ => ih.bind fun _ => .pure _
      · exact (within_note hout _).bind fun _ => ih

theorem within_provider_configure (r : Ref .provider) (component : Ref .component)
    (descriptor : ComponentDescriptor) (configuration : Properties) :
    Within premises .provider
      (Provider.configure out r component descriptor configuration) := by
  apply (within_changeProvider r _).bind
  intro _
  apply (within_offerAll hout component descriptor configuration _).bind
  intro services
  split
  · exact .pure ()
  · apply (Within.mapM within_service services).bind
    intro _
    apply (within_note hout _).bind
    intro _
    exact (within_changeProvider r _).bind fun _ => within_attach hout.log component rfl _

theorem within_registerService (className : String) (r : Ref .service) :
    Within premises .provider (Provider.registerService out className r) := by
  apply (within_service r).bind
  intro _
  apply (within_register hout r).bind
  intro answer
  split
  · apply (within_note hout _).bind
    intro _
    exact (within_service r).bind fun _ => within_tell hout _
  · exact .pure ()
  · exact within_noteCaught hout _ _ _ _

theorem within_unregisterService (className : String) (r : Ref .service) :
    Within premises .provider (Provider.unregisterService out className r) := by
  apply (within_service r).bind
  intro _
  apply (within_unregister hout r).bind
  intro answer
  split
  · exact (within_note hout _).bind fun _ => within_tell hout _
  · exact .pure ()
  · exact within_noteCaught hout _ _ _ _

omit hout in
/-- The same is asked of every service of a provider. -/
theorem within_services (r : Ref .provider) (component : Ref .component)
    {ask : String → Ref .service → Run σ Unit}
    (hask : ∀ className service, Within premises .provider (ask className service)) :
    Within premises .provider (do
      let className := (← Run.component component).className
      (← Run.provider r).services.forM (ask className)) := by
  apply Within.component_bind component fun _ => rfl
  intro _
  apply (within_provider r).bind
  exact fun _ => .forM fun service _ => hask _ service

theorem within_provider_start (r : Ref .provider) :
    Within premises .provider (Provider.start out r) := by
  apply (within_provider r).bind
  intro _
  apply Within.whileAlive
  intro component
  apply Within.component_bind component fun _ => rfl
  intro _
  split
  · exact within_services r component (within_registerService hout)
  · exact .pure ()

theorem within_provider_stop (r : Ref .provider) :
    Within premises .provider (Provider.stop out r) := by
  apply (within_provider r).bind
  intro _
  apply Within.whileAlive
  exact fun component => within_services r component (within_unregisterService hout)

theorem within_provider_stateChanged (r : Ref .provider) (state : Validity) :
    Within premises .provider (Provider.stateChanged out r state) := by
  apply (within_provider r).bind
  intro _
  apply Within.whileAlive
  intro component
  cases state with
  | valid => exact within_services r component (within_registerService hout)
  | invalid => exact within_services r component (within_unregisterService hout)

theorem within_writeService (className field : String) (value : Value) (r : Ref .service) :
    Within premises .provider (Provider.writeService out className field value r) := by
  apply (within_service r).bind
  intro _
  split
  · apply (within_write hout r field value).bind
    intro answer
    split
    · exact .pure ()
    · exact within_noteCaught hout _ _ _ _
  · exact .pure ()

theorem within_provider_fieldWritten (r : Ref .provider) (field : String) (value : Value) :
    Within premises .provider (Provider.fieldWritten out r field value) := by
  apply (within_provider r).bind
  intro _
  apply Within.whileAlive
  exact fun component => within_services r component fun className =>
    within_writeService hout className field value

theorem within_exchangeAll (r : Ref .provider) (operation : String)
    {exchange : Ref .service → Run σ (Except Failure Unit)}
    (hexchange : ∀ service, Within premises .provider (exchange service)) :
    Within premises .provider (Provider.exchangeAll out r operation exchange) := by
  apply (within_provider r).bind
  intro _
  apply Within.whileAlive
  intro component
  apply Within.component_bind component fun _ => rfl
  intro _
  apply (within_provider r).bind
  intro _
  apply Within.forM
  intro service _
  apply (hexchange service).bind
  intro answer
  split
  · exact .pure ()
  · exact within_noteCaught hout _ _ _ _

theorem within_extendAll (r : Ref .provider) (entries : Properties) :
    Within premises .provider (Provider.extendAll out r entries) := by
  rw [Provider.extendAll_eq]
  exact within_exchangeAll hout r _ fun service => within_extend hout service entries

theorem within_reduceAll (r : Ref .provider) (entries : Properties) :
    Within premises .provider (Provider.reduceAll out r entries) := by
  rw [Provider.reduceAll_eq]
  exact within_exchangeAll hout r _ fun service => within_reduce hout service entries

/-! ## Configurators -/

theorem within_bindProperty (r : Ref .configurator) (component : Ref .component)
    (descriptor : ComponentDescriptor) (configuration : Properties) (e : Element) :
    Within premises .configurator
      (Configurator.bindProperty out r component descriptor configuration e) := by
  dsimp only [Configurator.bindProperty]
  split
  · exact within_note hout _
  · apply (within_noteAll hout _).bind
    intro _
    apply (within_changeSurface component _).bind
    intro _
    exact (within_addProperty _).bind fun _ => within_changeConfigurator r _

omit hout in
theorem within_injectTyped (configuration : Properties) (r : Ref .property) :
    Within premises .configurator (Configurator.injectTyped configuration r) := by
  apply (within_property r).bind
  intro _
  split
  · exact within_setProperty r _
  · exact .pure ()

theorem within_configurator_configure (r : Ref .configurator) (component : Ref .component)
    (descriptor : ComponentDescriptor) (configuration : Properties) :
    Within premises .configurator
      (Configurator.configure out r component descriptor configuration) := by
  apply (within_changeConfigurator r _).bind
  intro _
  split
  · exact .pure ()
  · apply (Within.forM fun e _ =>
      within_bindProperty hout r component descriptor configuration e).bind
    intro _
    apply Within.platform_bind fun p q (hsame : p.settings = q.settings) => by rw [hsame]
    intro platform
    apply (within_changeConfigurator r _).bind
    intro _
    apply (within_configurator r).bind
    intro configurator
    dsimp only
    split
    · exact .pure ()
    · apply (Within.forM fun property _ => within_injectTyped configuration property).bind
      intro _
      apply (Within.mapM within_property _).bind
      intro _
      exact (within_attach hout.log component rfl _).bind fun _ => within_note hout _

/-- What follows a request to withdraw a former endpoint, and comes first if there was none. -/
theorem within_published (r : Ref .configurator) (before : Configurator) (holder : Component) :
    Within premises .configurator (do
      let settings := (← Run.platform).settings
      let shown := Configurator.endpointProperties settings before.identity
      match ← out.publish before.identity shown (.configurator r) with
      | .ok handle =>
          Run.changeConfigurator r fun c => { c with publication := some handle }
          out.note
            (Log.handlerOperation "publish" holder.className "configuration" "published"
              (some before.identity))
          out.tell (.configurationPublished holder.className before.identity)
      | .error failure =>
          out.noteCaught holder.className "publish_configuration" failure
            (some before.identity)) := by
  apply Within.platform_bind fun p q (hsame : p.settings = q.settings) => by rw [hsame]
  intro platform
  apply (within_askHost (hout.publish _ _ _)).bind
  intro answer
  split
  · apply (within_changeConfigurator r _).bind
    intro _
    exact (within_note hout _).bind fun _ => within_tell hout _
  · exact within_noteCaught hout _ _ _ _

theorem within_publish (r : Ref .configurator) :
    Within premises .configurator (Configurator.publish out r) := by
  apply (within_configurator r).bind
  intro before
  split
  · exact .pure ()
  · apply (within_changeConfigurator r _).bind
    intro _
    apply Within.whileAlive
    intro component
    apply Within.component_bind component fun _ => rfl
    intro holder
    have hpublished := within_published hout r before holder
    split
    · exact hpublished
    · apply (within_askHost (hout.withdraw _)).bind
      intro answer
      split
      · exact hpublished
      · exact (within_note hout _).bind fun _ => hpublished

theorem within_withdraw (r : Ref .configurator) :
    Within premises .configurator (Configurator.withdraw out r) := by
  apply (within_configurator r).bind
  intro before
  split
  · exact .pure ()
  · apply (within_changeConfigurator r _).bind
    intro _
    apply Within.whileAlive
    intro component
    apply Within.component_bind component fun _ => rfl
    intro _
    apply (within_askHost (hout.withdraw _)).bind
    intro answer
    split
    · apply (within_note hout _).bind
      intro _
      exact (within_configurator r).bind fun _ => within_tell hout _
    · exact within_note hout _

theorem within_configurator_stateChanged (r : Ref .configurator) (state : Validity) :
    Within premises .configurator (Configurator.stateChanged out r state) := by
  cases state with
  | valid =>
      apply (within_configurator r).bind
      intro _
      split
      · exact within_publish hout r
      · exact .pure ()
  | invalid => exact within_withdraw hout r

theorem within_configurator_fieldWritten (r : Ref .configurator) (field : String)
    (value : Value) :
    Within premises .configurator (Configurator.fieldWritten out r field value) := by
  apply (within_configurator r).bind
  intro _
  refine .forM fun property _ => (within_property property).bind fun held => ?_
  split
  · split
    · exact .pure ()
    · exact (within_setProperty property _).bind fun _ => within_note hout _
  · exact .pure ()

/-! ## Callers -/

theorem idles_caller_run (className : String) (component : Ref .component)
    (callback : Callback) : Idles premises (Caller.run out className component callback) := by
  apply (idles_note hout _).bind
  intro _
  have hinvoked : Idles premises (callback.invoke out component) := by
    unfold Callback.invoke
    split
    · exact .pure _
    next method _ =>
      unfold Method.invoke
      split
      · exact .pure _
      · exact (hout.call _ _).bind fun _ => .pure _
  apply hinvoked.bind
  intro answer
  split
  · exact .pure ()
  · exact idles_note hout _

theorem within_caller_configure (r : Ref .caller) (component : Ref .component)
    (descriptor : ComponentDescriptor) :
    Within premises .caller (Caller.configure out r component descriptor) := by
  apply Within.component_bind component fun _ => rfl
  intro _
  apply (within_noteAll hout _).bind
  intro _
  apply (within_changeCaller r _).bind
  intro _
  split
  · exact .pure ()
  · exact (within_attach hout.log component rfl _).bind fun _ => within_note hout _

theorem within_caller_stateChanged (r : Ref .caller) (state : Validity) :
    Within premises .caller (Caller.stateChanged out r state) := by
  apply (within_caller r).bind
  intro _
  apply (within_changeCaller r _).bind
  intro _
  apply Within.whileAlive
  intro component
  apply Within.component_bind component fun _ => rfl
  intro _
  exact .forM fun callback _ => (idles_caller_run hout _ component callback).within

/-! ## What is asked of a handler -/

theorem sided_configure (component : Ref .component) (descriptor : ComponentDescriptor)
    (configuration : Properties) :
    Sided premises fun handler => handler.configure out component descriptor configuration
  | .provider r => within_provider_configure hout r component descriptor configuration
  | .configurator r => within_configurator_configure hout r component descriptor configuration
  | .caller r => within_caller_configure hout r component descriptor
  | .guest _ number => hout.configure number component descriptor configuration

theorem sided_start : Sided premises (Handler.start out)
  | .provider r => within_provider_start hout r
  | .configurator r => within_publish hout r
  | .caller _ => .pure ()
  | .guest _ number => hout.notify number .started

theorem sided_stop : Sided premises (Handler.stop out)
  | .provider r => within_provider_stop hout r
  | .configurator r => within_withdraw hout r
  | .caller r => within_changeCaller r _
  | .guest _ number => hout.notify number .stopped

theorem sided_stateChanged (state : Validity) : Sided premises (Handler.stateChanged out state)
  | .provider r => within_provider_stateChanged hout r state
  | .configurator r => within_configurator_stateChanged hout r state
  | .caller r => within_caller_stateChanged hout r state
  | .guest _ number => hout.notify number (.stateChanged state)

theorem sided_fieldWritten (field : String) (value : Value) :
    Sided premises (Handler.fieldWritten out field value)
  | .provider r => within_provider_fieldWritten hout r field value
  | .configurator r => within_configurator_fieldWritten hout r field value
  | .caller _ => .pure ()
  | .guest _ number => hout.notify number (.fieldWritten field value)

end Handlers

/-! ## Keepers in memory -/

section InMemory

variable {premises : σ → Premises} {registry : σ → Registry} {store : Registry → σ → σ}
  {host : σ → Host Target} {keep : Host Target → σ → σ}

/-- A registry that is kept in the surroundings answers at once. -/
theorem returns_askRegistry (hpremises : ∀ t, premises t = ⟨registry t, host t⟩)
    (hstore : ∀ after t, premises (store after t) = { premises t with registry := after })
    (ask : Registry → Except Failure (α × Registry)) (w : World σ) :
    (askRegistry registry store ask).Returns w (FromRegistry premises ask w) := by
  have hregistry : (premises w.surroundings).registry = registry w.surroundings := by
    rw [hpremises]
  simp only [askRegistry, Run.returns_bind, Run.returns_surroundings]
  split
  next a after hask =>
    simp only [Run.returns_bind, Run.returns_changeSurroundings, Run.returns_pure]
    refine ⟨rfl, ?_, ?_⟩
    · simp [hstore]
    · simp [hstore, reply, hregistry, hask]
  next failure hask =>
    refine (Run.returns_pure _).mpr ⟨rfl, rfl, ?_⟩
    simp [reply, hregistry, hask]

/-- Collaborators that keep the registry and the host in the surroundings, and have methods
that do nothing, are secluded. -/
theorem secluded_inMemory {announce : Event → σ → σ} {method : Nat → Run σ Ending}
    (hpremises : ∀ t, premises t = ⟨registry t, host t⟩)
    (hstore : ∀ after t, premises (store after t) = { premises t with registry := after })
    (hkeep : ∀ after t, premises (keep after t) = { premises t with host := after })
    (hannounce : ∀ event t, premises (announce event t) = premises t)
    (hmethod : ∀ number, Idles premises (method number)) :
    Secluded premises
      ((Collaborators.inMemory registry store announce method).hosting host keep) where
  log _ _ := rfl
  announce := hannounce
  register specifications properties factory :=
    returns_askRegistry hpremises hstore (·.register specifications properties factory)
  unregister handle := returns_askRegistry hpremises hstore (·.askUnregister handle)
  update handle properties :=
    returns_askRegistry hpremises hstore (·.askUpdate handle properties)
  publish identity properties target w := by
    have hhost : (premises w.surroundings).host = host w.surroundings := by rw [hpremises]
    simp only [Collaborators.hosting, Run.returns_bind, Run.returns_surroundings,
      Run.returns_changeSurroundings]
    refine (Run.returns_pure _).mpr ⟨rfl, ?_, ?_⟩
    · simp [hkeep]
    · simp [hkeep, reply, Host.askPublish, hhost]
  withdraw handle w := by
    have hhost : (premises w.surroundings).host = host w.surroundings := by rw [hpremises]
    simp only [Collaborators.hosting, Run.returns_bind, Run.returns_surroundings]
    split
    next after hwithdrawn =>
      simp only [Run.returns_bind, Run.returns_changeSurroundings]
      refine (Run.returns_pure _).mpr ⟨rfl, ?_, ?_⟩
      · simp [hkeep]
      · simp [hkeep, reply, Host.askWithdraw, hhost, hwithdrawn, Except.map]
    next failure hgone =>
      refine (Run.returns_pure _).mpr ⟨rfl, rfl, ?_⟩
      simp [reply, Host.askWithdraw, hhost, hgone, Except.map]
  call number _ := hmethod number
  configure _ _ _ _ := .pure ()
  notify _ _ := .pure ()
  read _ _ _ _ := (Run.returns_pure _).mpr ⟨rfl, rfl, rfl⟩
  ready _ _ := (Run.returns_pure _).mpr ⟨rfl, rfl, rfl⟩
  rounds := Nat.one_pos

end InMemory

end Componentry

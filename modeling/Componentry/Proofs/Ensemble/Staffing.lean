import Componentry.Proofs.Ensemble.Basic
import Componentry.Proofs.Service.Pushing

/-!
# Staffed components

A component may be configured with any of the handlers of an ensemble, in any order. It is
staffed: it has no other handlers, and those that it has hold what is theirs or nothing. This is
all that operations need in order to meet no guest and no foreign service.

A regime that tolerates slight steps and log records keeps what handlers do in it, provided that
it keeps what they do with a single service, with the endpoint and with a state. Then it keeps all
operations.
-/

namespace Componentry

variable {σ α : Type}

/-- The component has no handlers but those of the ensemble. The provider holds the services of
the ensemble for it, if there are any, and the configurator belongs to no other component. -/
structure Ensemble.Staffed (e : Ensemble) (w : World σ) : Prop where
  handlers : ∀ handler ∈ (w.component e.component).handlers, handler ∈ e.handlers
  services : (w.provider e.provider).services = e.services
  provider : e.services ≠ [] → (w.provider e.provider).component = some e.component
  configurator : ∀ r ∈ (w.configurator e.configurator).component, r = e.component

theorem Ensemble.Stands.staffed {e : Ensemble} {w : World σ} (hw : e.Stands w) : e.Staffed w where
  handlers := hw.handlers
  services := by rw [hw.provider]
  provider _ := by rw [hw.provider]
  configurator r hr := (Option.some.inj (hw.configurator.symm.trans hr)).symm

namespace Provider

variable (out : Collaborators σ) (r : Ref .provider)

/-- Exchange entries of all services that a provider holds, and note what fails. -/
def exchangeAll (operation : String) (exchange : Ref .service → Run σ (Except Failure Unit)) :
    Run σ Unit := do
  Run.whileAlive (← Run.provider r).component fun component => do
    let className := (← Run.component component).className
    (← Run.provider r).services.forM fun service => do
      match ← exchange service with
      | .ok () => return
      | .error failure => out.noteCaught className operation failure none

theorem extendAll_eq (entries : Properties) :
    extendAll out r entries =
      exchangeAll out r "add_properties" fun service => Service.extend out service entries := rfl

theorem reduceAll_eq (entries : Properties) :
    reduceAll out r entries =
      exchangeAll out r "remove_properties" fun service => Service.reduce out service entries := rfl

end Provider

/-- Whether a component is staffed is a matter of its attachments and of what its handlers hold. -/
theorem Ensemble.Staffed.of_same {e : Ensemble} {w w' : World σ} (hw : e.Staffed w)
    (hattachments : (w'.component e.component).attachments = (w.component e.component).attachments)
    (hprovider : w'.provider e.provider = w.provider e.provider)
    (hconfigurator : (w'.configurator e.configurator).component =
      (w.configurator e.configurator).component) : e.Staffed w' where
  handlers := by
    rw [Component.handlers, hattachments]
    exact hw.handlers
  services := by rw [hprovider, hw.services]
  provider := by
    rw [hprovider]
    exact hw.provider
  configurator := by
    rw [hconfigurator]
    exact hw.configurator

/-- A regime for a staffed component that slight steps and log records stay in. -/
structure Regime.Tolerates (R : Regime σ) (e : Ensemble) (out : Collaborators σ) : Prop where
  staffed : ∀ {w}, R.holds w → e.Staffed w
  slight : ∀ {w w'}, Slight w w' → R.Allows w w'
  note : ∀ record, R.Keeps (out.note record)

/-- The handlers of an ensemble are always ready. -/
theorem Component.allReady_eq {e : Ensemble} (out : Collaborators σ) {handlers : List Handler}
    (hhandlers : ∀ handler ∈ handlers, handler ∈ e.handlers) :
    Component.allReady out handlers = pure true := by
  induction handlers with
  | nil => rfl
  | cons handler rest ih =>
      have hready : handler.isReady out = pure true := by
        have hhandler := hhandlers handler List.mem_cons_self
        rcases Ensemble.mem_handlers.mp hhandler with rfl | rfl | rfl <;> rfl
      simp only [Component.allReady, hready, pure_bind, if_true]
      exact ih fun other hother => hhandlers other (List.mem_cons_of_mem handler hother)

namespace Regime

/-- The handlers of an ensemble are those of the library, in any number and order. -/
theorem forM_handlers {R : Regime σ} {e : Ensemble} {f : Handler → Run σ Unit}
    {handlers : List Handler} (hhandlers : ∀ handler ∈ handlers, handler ∈ e.handlers)
    (hprovider : R.Keeps (f (.provider e.provider)))
    (hconfigurator : R.Keeps (f (.configurator e.configurator)))
    (hcaller : R.Keeps (f (.caller e.caller))) : R.Keeps (handlers.forM f) := by
  refine Keeps.forM fun handler hmem => ?_
  rcases Ensemble.mem_handlers.mp (hhandlers handler hmem) with rfl | rfl | rfl
  · exact hprovider
  · exact hconfigurator
  · exact hcaller

namespace Tolerates

variable {R : Regime σ} {e : Ensemble} {out : Collaborators σ} (H : R.Tolerates e out)
include H

section Runs

theorem noteAll (records : List Log.Record) : R.Keeps (out.noteAll records) :=
  Keeps.forM fun record _ => H.note record

theorem noteCaught (component operation : String) (failure : Failure) (context : Option String) :
    R.Keeps (out.noteCaught component operation failure context) :=
  H.note _

theorem holding {m : Run σ α} (r : Ref .component) (hm : R.Keeps m) :
    R.Keeps (Run.holding r m) :=
  hm.holding (fun w => H.slight (.hold w r)) fun w => H.slight (.release w r)

theorem whileAlive {r : Option (Ref .component)} {m : Ref .component → Run σ Unit}
    (hm : ∀ s, r = some s → R.Keeps (m s)) : R.Keeps (Run.whileAlive r m) := by
  intro w hw
  refine Run.ensures_whileAlive (.refl w) ?_
  intro s hs
  exact (Run.ensures_holding s (m s)).mp (H.holding s (hm s hs) w hw)

theorem component_bind {f : Component → Run σ α}
    (hf : ∀ c : Component, (∀ handler ∈ c.handlers, handler ∈ e.handlers) → R.Keeps (f c)) :
    R.Keeps (Run.component e.component >>= f) := by
  intro w hw
  rw [Run.ensures_bind, Run.ensures_component]
  exact hf _ (H.staffed hw).handlers w hw

theorem provider_bind {f : Provider → Run σ α}
    (hf : ∀ p : Provider, p.services = e.services → R.Keeps (f p)) :
    R.Keeps (Run.provider e.provider >>= f) := by
  intro w hw
  rw [Run.ensures_bind, Run.ensures_provider]
  exact hf _ (H.staffed hw).services w hw

theorem configurator_bind {f : Configurator → Run σ α}
    (hf : ∀ c : Configurator, (∀ r ∈ c.component, r = e.component) → R.Keeps (f c)) :
    R.Keeps (Run.configurator e.configurator >>= f) := by
  intro w hw
  rw [Run.ensures_bind, Run.ensures_configurator]
  exact hf _ (H.staffed hw).configurator w hw

/-- What is done for each service that the provider holds. -/
theorem forM_services {f : Ref .service → Run σ Unit} (hf : ∀ s ∈ e.services, R.Keeps (f s)) :
    R.Keeps (do (← Run.provider e.provider).services.forM f) :=
  H.provider_bind fun _ hservices => Keeps.forM fun s hs => hf s (hservices ▸ hs)

theorem setProperty {w : World σ} (r : Ref .property) {property : ConfigurableProperty}
    (hname : property.name = (w.property r).name)
    (hfield : property.field = (w.property r).field) :
    (Run.setProperty r property).Ensures w fun _ => R.Allows w := by
  rw [Run.ensures_setProperty]
  exact H.slight (.setProperty w r hname hfield)

end Runs

section Writes

variable (hwrite : ∀ s ∈ e.services, ∀ field value, R.Keeps (Service.write out s field value))
include hwrite

theorem writeService {s : Ref .service} (hs : s ∈ e.services) (className field : String)
    (value : Value) : R.Keeps (Provider.writeService out className field value s) := by
  unfold Provider.writeService
  refine (keeps_service s).bind fun service => ?_
  split
  · refine (hwrite s hs field value).bind fun answer => ?_
    split
    · exact keeps_pure ()
    · exact H.noteCaught _ _ _ _
  · exact keeps_pure ()

theorem provider_fieldWritten (field : String) (value : Value) :
    R.Keeps (Provider.fieldWritten out e.provider field value) := by
  refine H.provider_bind fun _ _ => H.whileAlive fun component _ => ?_
  refine (keeps_component component).bind fun c => H.forM_services fun s hs => ?_
  exact H.writeService hwrite hs _ field value

end Writes

theorem writeProperty (field : String) (value : Value) (r : Ref .property) :
    R.Keeps (Configurator.writeProperty out field value r) := by
  intro w hw
  simp only [Configurator.writeProperty, Run.ensures_bind, Run.ensures_property]
  split
  · split
    next => exact (Run.ensures_pure _).mpr (.refl w)
    next changed hassign =>
      rw [Run.ensures_bind]
      refine (H.setProperty r (ConfigurableProperty.name_of_assign? hassign)
        (ConfigurableProperty.field_of_assign? hassign)).mono ?_
      intro _ w' hallows
      exact hallows.then hw (H.note _)
  · exact (Run.ensures_pure _).mpr (.refl w)

theorem configurator_fieldWritten (field : String) (value : Value) :
    R.Keeps (Configurator.fieldWritten out e.configurator field value) :=
  (keeps_configurator _).bind fun _ => Keeps.forM fun r _ => H.writeProperty field value r

section Caller

variable (htracked : ∀ tracked, R.Keeps
  (Run.changeCaller e.caller fun c => { c with tracked := tracked }))

variable (hcall : ∀ number component, R.Keeps (out.call number component))
include hcall

theorem callback_run (className : String) (component : Ref .component) (callback : Callback) :
    R.Keeps (Caller.run out className component callback) := by
  unfold Caller.run
  refine (H.note _).bind fun _ => Keeps.bind ?_ fun answer => ?_
  · unfold Callback.invoke
    split
    · exact keeps_pure _
    · unfold Method.invoke
      split
      · exact keeps_pure _
      · exact (hcall _ _).bind fun _ => keeps_pure _
  · split
    · exact keeps_pure ()
    · exact H.note _

include htracked in
theorem caller_stateChanged (state : Validity) :
    R.Keeps (Caller.stateChanged out e.caller state) := by
  unfold Caller.stateChanged
  refine (keeps_caller _).bind fun before => ?_
  refine (htracked state).bind fun _ => H.whileAlive fun component _ => ?_
  exact (keeps_component component).bind fun _ =>
    Keeps.forM fun callback _ => H.callback_run hcall _ component callback

end Caller

theorem component_setField
    (hwrite : ∀ s ∈ e.services, ∀ field value, R.Keeps (Service.write out s field value))
    (field : String) (value : Value) :
    R.Keeps (Component.setField out e.component field value) := by
  refine H.holding e.component (H.component_bind fun c hc => Keeps.bind ?_ fun _ => ?_)
  · refine forM_handlers (fun handler hmem => hc handler ?_)
      (H.provider_fieldWritten hwrite field value)
      (H.configurator_fieldWritten field value) (keeps_pure ())
    obtain ⟨attachment, hattachment, rfl⟩ := List.mem_map.mp hmem
    exact List.mem_map_of_mem (List.mem_filter.mp hattachment).1
  · intro w _
    rw [Run.ensures_changeComponent]
    exact H.slight (.changeComponent w _ (fun _ => rfl) (fun _ => rfl) fun _ => rfl)

section Propagation

theorem provider_exchangeAll (operation : String)
    {exchange : Ref .service → Run σ (Except Failure Unit)}
    (hexchange : ∀ s ∈ e.services, R.Keeps (exchange s)) :
    R.Keeps (Provider.exchangeAll out e.provider operation exchange) := by
  refine H.provider_bind fun _ _ => H.whileAlive fun component _ => ?_
  refine (keeps_component component).bind fun c => H.forM_services fun s hs => ?_
  refine (hexchange s hs).bind fun answer => ?_
  split
  · exact keeps_pure ()
  · exact H.noteCaught _ _ _ _

theorem configurator_propagate
    (hextend : ∀ s ∈ e.services, ∀ entries, R.Keeps (Service.extend out s entries))
    (hreduce : ∀ s ∈ e.services, ∀ entries, R.Keeps (Service.reduce out s entries))
    (hpropagated : ∀ entries, R.Keeps
      (Run.changeConfigurator e.configurator fun c => { c with propagated := entries }))
    (entries : Properties) :
    R.Keeps (Configurator.propagate out e.configurator e.component entries) := by
  unfold Configurator.propagate
  refine (keeps_configurator _).bind fun c => ?_
  extract_lets previous
  split
  · exact keeps_pure ()
  · refine H.component_bind fun holder hholder => ?_
    split
    · exact H.note _
    next provider hprovider =>
      cases e.eq_provider hholder hprovider
      refine (H.note _).bind fun _ => ?_
      extract_lets addEntries
      have haddEntries : ∀ u, R.Keeps (addEntries u) := by
        intro u
        simp only [addEntries]
        split
        · rw [Provider.extendAll_eq]
          exact (H.provider_exchangeAll _ fun s hs => hextend s hs entries).bind
            fun _ => hpropagated entries
        · exact hpropagated entries
      split
      · rw [Provider.reduceAll_eq]
        exact (H.provider_exchangeAll _ fun s hs => hreduce s hs previous).bind haddEntries
      · exact haddEntries ()

end Propagation

section Update

omit H in
theorem keeps_find? (name : String) (properties : List (Ref .property)) :
    R.Keeps (Configurator.find? name properties : Run σ (Option (Ref .property))) := by
  induction properties with
  | nil => exact keeps_pure none
  | cons r rest ih =>
      unfold Configurator.find?
      refine (keeps_property r).bind fun property => ?_
      split
      · exact keeps_pure (some r)
      · exact ih

section Entries

variable (hwrite : ∀ s ∈ e.services, ∀ field value, R.Keeps (Service.write out s field value))
include hwrite

theorem applyEntry (r : Ref .property) (incoming : Value) :
    R.Keeps (Configurator.applyEntry out e.component r incoming) := by
  intro w hw
  simp only [Configurator.applyEntry, Run.ensures_bind, Run.ensures_property]
  refine ((H.noteAll _ w hw).and (Run.ensures_noteAll out _)).mono ?_
  rintro _ w' ⟨hallows, hplatform⟩
  split
  · exact (Run.ensures_pure _).mpr hallows
  · split
    next field hfield => exact hallows.then hw (H.component_setField hwrite field _)
    next hfield =>
      obtain ⟨-, -, hproperty, -⟩ := World.objects_of_platform hplatform
      refine (H.setProperty r ?_ ?_).mono fun _ _ hset => hallows.trans hset
      · rw [ConfigurableProperty.name_assign, hproperty]
      · rw [ConfigurableProperty.field_assign, hproperty]

theorem applyEntries (className : String) (properties : List (Ref .property))
    (entries : List (String × Value)) :
    R.Keeps (Configurator.applyEntries out e.component className properties entries) := by
  induction entries with
  | nil => exact keeps_pure []
  | cons entry rest ih =>
      unfold Configurator.applyEntries
      refine (keeps_find? _ properties).bind fun found => ?_
      split
      · exact (H.applyEntry hwrite _ _).bind fun _ => ih
      · exact (H.note _).bind fun _ => ih.bind fun _ => keeps_pure _

/-- An update stays in a regime in which its entries can be propagated. -/
theorem configurator_updated
    (hpropagate : ∀ entries, R.Keeps (Configurator.propagate out e.configurator e.component entries))
    (configuration : Option Properties) :
    R.Keeps (Configurator.updated out e.configurator configuration) := by
  unfold Configurator.updated
  refine H.configurator_bind fun before hbound => H.whileAlive fun component hcomponent => ?_
  cases hbound component hcomponent
  refine (keeps_component _).bind fun c => ?_
  split
  · exact H.note _
  · exact (H.applyEntries hwrite _ _ _).bind fun unmatched => hpropagate _

end Entries

end Update

section Services

variable {component : Ref .component}
  (hregister : ∀ s ∈ e.services, ∀ className, R.Keeps (Provider.registerService out className s))
  (hunregister : ∀ s ∈ e.services, ∀ className,
    R.Keeps (Provider.unregisterService out className s))

include hregister in
theorem provider_registerAll : R.Keeps (Provider.registerAll out e.provider component) :=
  (keeps_component _).bind fun _ => H.forM_services fun s hs => hregister s hs _

include hunregister in
theorem provider_unregisterAll : R.Keeps (Provider.unregisterAll out e.provider component) :=
  (keeps_component _).bind fun _ => H.forM_services fun s hs => hunregister s hs _

include hregister in
theorem provider_start : R.Keeps (Provider.start out e.provider) := by
  refine H.provider_bind fun _ _ => H.whileAlive fun component _ => ?_
  refine (keeps_component _).bind fun c => ?_
  split
  · exact H.provider_registerAll hregister
  · exact keeps_pure ()

include hunregister in
theorem provider_stop : R.Keeps (Provider.stop out e.provider) :=
  H.provider_bind fun _ _ => H.whileAlive fun _ _ =>
    H.provider_unregisterAll hunregister

include hregister hunregister in
theorem provider_stateChanged (state : Validity) :
    R.Keeps (Provider.stateChanged out e.provider state) := by
  refine H.provider_bind fun _ _ => H.whileAlive fun component _ => ?_
  cases state with
  | valid => exact H.provider_registerAll hregister
  | invalid => exact H.provider_unregisterAll hunregister

end Services

section Endpoint

variable
  (hpublication : ∀ publication, R.Keeps
    (Run.changeConfigurator e.configurator fun c => { c with publication := publication }))
  (hwithdraw : ∀ handle, R.Keeps (out.withdraw handle))
include hpublication hwithdraw

theorem configurator_publish
    (hpublish : ∀ identity properties target, R.Keeps (out.publish identity properties target))
    (hpublished : ∀ className identity,
      R.Keeps (out.tell (.configurationPublished className identity))) :
    R.Keeps (Configurator.publish out e.configurator) := by
  unfold Configurator.publish
  refine (keeps_configurator _).bind fun before => ?_
  split
  · exact keeps_pure ()
  · refine (hpublication none).bind fun _ => H.whileAlive fun component _ => ?_
    refine (keeps_component component).bind fun c => ?_
    extract_lets className anew
    have hanew : ∀ u, R.Keeps (anew u) := by
      intro u
      refine keeps_platform.bind fun platform => (hpublish _ _ _).bind fun answer => ?_
      split
      next handle =>
        exact (hpublication (some handle)).bind fun _ =>
          (H.note _).bind fun _ => hpublished _ _
      next => exact H.noteCaught _ _ _ _
    split
    · exact hanew ()
    · refine (hwithdraw _).bind fun answer => ?_
      split
      · exact hanew ()
      · exact (H.note _).bind hanew

theorem configurator_withdraw
    (hwithdrawn : ∀ className identity,
      R.Keeps (out.tell (.configurationWithdrawn className identity))) :
    R.Keeps (Configurator.withdraw out e.configurator) := by
  unfold Configurator.withdraw
  refine (keeps_configurator _).bind fun before => ?_
  split
  · exact keeps_pure ()
  · refine (hpublication none).bind fun _ => H.whileAlive fun component _ => ?_
    refine (keeps_component component).bind fun c => (hwithdraw _).bind fun answer => ?_
    split
    · exact (H.note _).bind fun _ =>
        (keeps_configurator _).bind fun _ => hwithdrawn _ _
    · exact H.note _

end Endpoint

end Tolerates

/-- A regime for a staffed component that all parts of its operations stay in. -/
structure Tends (R : Regime σ) (e : Ensemble) (out : Collaborators σ) : Prop
    extends R.Tolerates e out where
  state : ∀ state, R.Keeps
    (Run.changeComponent e.component fun c => { c with state := state })
  tracked : ∀ tracked, R.Keeps (Run.changeCaller e.caller fun c => { c with tracked := tracked })
  tell : ∀ event, R.Keeps (out.tell event)
  call : ∀ number component, R.Keeps (out.call number component)
  publish : R.Keeps (Configurator.publish out e.configurator)
  withdraw : R.Keeps (Configurator.withdraw out e.configurator)
  register : ∀ s ∈ e.services, R.Keeps (Service.register out s)
  unregister : ∀ s ∈ e.services, R.Keeps (Service.unregister out s)
  write : ∀ s ∈ e.services, ∀ field value, R.Keeps (Service.write out s field value)
  propagate : ∀ entries,
    R.Keeps (Configurator.propagate out e.configurator e.component entries)

namespace Tends

variable {R : Regime σ} {e : Ensemble} {out : Collaborators σ} (H : R.Tends e out)
include H

theorem registerService (s : Ref .service) (hs : s ∈ e.services) (className : String) :
    R.Keeps (Provider.registerService out className s) :=
  keeps_registerService H.note H.tell (H.register s hs) className

theorem unregisterService (s : Ref .service) (hs : s ∈ e.services) (className : String) :
    R.Keeps (Provider.unregisterService out className s) :=
  keeps_unregisterService H.note H.tell (H.unregister s hs) className

theorem configurator_stateChanged (state : Validity) :
    R.Keeps (Configurator.stateChanged out e.configurator state) := by
  cases state with
  | valid =>
      refine (keeps_configurator _).bind fun c => ?_
      split
      · exact H.publish
      · exact keeps_pure ()
  | invalid => exact H.withdraw

theorem stateChanged {handler : Handler} (hhandler : handler ∈ e.handlers) (state : Validity) :
    R.Keeps (handler.stateChanged out state) := by
  rcases Ensemble.mem_handlers.mp hhandler with rfl | rfl | rfl
  · exact H.provider_stateChanged H.registerService H.unregisterService state
  · exact H.configurator_stateChanged state
  · exact H.caller_stateChanged H.tracked H.call state

theorem dispatch (state : Validity) {handlers : List Handler}
    (hhandlers : ∀ handler ∈ handlers, handler ∈ e.handlers) :
    R.Keeps (Component.dispatch out e.component state handlers) := by
  induction handlers with
  | nil => exact keeps_pure ()
  | cons handler rest ih =>
      refine (keeps_component _).bind fun component => ?_
      split
      · exact H.note _
      · exact (H.stateChanged (hhandlers handler List.mem_cons_self) state).bind fun _ =>
          ih fun other hother => hhandlers other (List.mem_cons_of_mem handler hother)

theorem component_setState (state : Validity) :
    R.Keeps (Component.setState out e.component state) := by
  refine H.holding e.component ((keeps_component _).bind fun component => ?_)
  split
  · exact keeps_pure ()
  · exact (H.state state).bind fun _ => (H.note _).bind fun _ => (H.tell _).bind fun _ =>
      H.component_bind fun _ hhandlers => H.dispatch state hhandlers

theorem component_checkValidity : R.Keeps (Component.checkValidity out e.component) := by
  refine H.holding e.component (H.component_bind fun component hhandlers => ?_)
  rw [Component.allReady_eq out hhandlers, pure_bind]
  exact H.component_setState _

theorem component_start : R.Keeps (Component.start out e.component) := by
  refine H.holding e.component (H.component_bind fun component hhandlers => ?_)
  refine Keeps.bind ?_ fun _ => (H.note _).bind fun _ => H.component_checkValidity
  exact forM_handlers hhandlers (H.provider_start H.registerService) H.publish (keeps_pure ())

theorem component_stop : R.Keeps (Component.stop out e.component) := by
  refine H.holding e.component (H.component_bind fun component hhandlers => ?_)
  refine Keeps.bind ?_ fun _ => (H.state .invalid).bind fun _ => H.note _
  exact forM_handlers hhandlers (H.provider_stop H.unregisterService) H.withdraw
    (H.tracked .invalid)

/-- Every operation on a staffed component stays in a regime that tends it. -/
theorem operation (operation : Ensemble.Operation) : R.Keeps (operation.run out e) := by
  cases operation with
  | start => exact H.component_start
  | stop => exact H.component_stop
  | checkValidity => exact H.component_checkValidity
  | setState state => exact H.component_setState state
  | setField field value => exact H.component_setField H.write field value
  | update configuration => exact H.configurator_updated H.write H.propagate configuration

end Tends

end Regime

end Componentry

import Componentry.Proofs.Ensemble.Staffing

/-!
# Handlers beside a caller

A component may have any handlers, guests among them, and what they hold may be anybody's. Apart
from what they call outside, handlers other than callers only take steps that are inert for a caller:
the state of its component, the handlers of the component and the caller itself stay as they are.

So a regime that inert steps stay in, and the calls that go outside, keeps all that those handlers
do. What remains are the changes of the state and what the caller does.
-/

namespace Componentry

variable {σ α β : Type}

/-- A step that leaves the state and the handlers of a component and a caller as they are. -/
structure Inert (r : Ref .component) (k : Ref .caller) (w w' : World σ) : Prop where
  surroundings : w'.surroundings = w.surroundings
  state : (w'.component r).state = (w.component r).state
  attachments : (w'.component r).attachments = (w.component r).attachments
  caller : w'.caller k = w.caller k

namespace Inert

variable {r : Ref .component} {k : Ref .caller} (w : World σ)

theorem changeComponent (s : Ref .component) {f : Component → Component}
    (hstate : ∀ c, (f c).state = c.state) (hattachments : ∀ c, (f c).attachments = c.attachments) :
    Inert r k w (w.changeComponent s f) where
  surroundings := rfl
  state := w.component_changeComponent_same Component.state hstate s r
  attachments := w.component_changeComponent_same Component.attachments hattachments s r
  caller := rfl

theorem hold (s : Ref .component) : Inert r k w (w.hold s) :=
  changeComponent w s (fun _ => rfl) fun _ => rfl

theorem release (s : Ref .component) : Inert r k w (w.release s) :=
  changeComponent w s (fun _ => rfl) fun _ => rfl

theorem setService (s : Ref .service) (service : Service) : Inert r k w (w.setService s service) :=
  ⟨rfl, rfl, rfl, rfl⟩

theorem setProperty (s : Ref .property) (property : ConfigurableProperty) :
    Inert r k w (w.setProperty s property) :=
  ⟨rfl, rfl, rfl, rfl⟩

theorem changeConfigurator (s : Ref .configurator) (f : Configurator → Configurator) :
    Inert r k w (w.changeConfigurator s f) :=
  ⟨rfl, rfl, rfl, rfl⟩

theorem changeCaller {s : Ref .caller} (f : Caller → Caller) (hother : s ≠ k) :
    Inert r k w (w.changeCaller s f) :=
  ⟨rfl, rfl, rfl, by rw [World.caller_changeCaller, if_neg (Ne.symm hother)]⟩

end Inert

/-- A regime that inert steps stay in, and all calls that go outside but those of methods. -/
structure Regime.Endures (R : Regime σ) (r : Ref .component) (k : Ref .caller)
    (out : Collaborators σ) : Prop where
  inert : ∀ {w w'}, Inert r k w w' → R.Allows w w'
  note : ∀ record, R.Keeps (out.note record)
  tell : ∀ event, R.Keeps (out.tell event)
  register : ∀ specifications properties factory,
    R.Keeps (out.register specifications properties factory)
  unregister : ∀ handle, R.Keeps (out.unregister handle)
  update : ∀ handle properties, R.Keeps (out.update handle properties)
  publish : ∀ identity properties target, R.Keeps (out.publish identity properties target)
  withdraw : ∀ handle, R.Keeps (out.withdraw handle)
  notify : ∀ number notice, R.Keeps (out.notify number notice)
  ready : ∀ number, R.Keeps (out.ready number)

namespace Regime.Endures

variable {R : Regime σ} {r : Ref .component} {k : Ref .caller} {out : Collaborators σ}
  (H : R.Endures r k out)
include H

theorem noteAll (records : List Log.Record) : R.Keeps (out.noteAll records) :=
  Keeps.forM fun record _ => H.note record

theorem holding {m : Run σ α} (s : Ref .component) (hm : R.Keeps m) :
    R.Keeps (Run.holding s m) :=
  hm.holding (fun w => H.inert (.hold w s)) fun w => H.inert (.release w s)

theorem whileAlive {s : Option (Ref .component)} {m : Ref .component → Run σ Unit}
    (hm : ∀ t, R.Keeps (m t)) : R.Keeps (Run.whileAlive s m) := by
  intro w hw
  refine Run.ensures_whileAlive (.refl w) fun t _ => ?_
  exact (Run.ensures_holding t (m t)).mp (H.holding t (hm t) w hw)

theorem changeConfigurator (s : Ref .configurator) (f : Configurator → Configurator) :
    R.Keeps (Run.changeConfigurator s f) := by
  intro w _
  rw [Run.ensures_changeConfigurator]
  exact H.inert (.changeConfigurator w s f)

theorem setProperty (s : Ref .property) (property : ConfigurableProperty) :
    R.Keeps (Run.setProperty s property) := by
  intro w _
  rw [Run.ensures_setProperty]
  exact H.inert (.setProperty w s property)

/-! ## Providers -/

theorem service_write (s : Ref .service) (field : String) (value : Value) :
    R.Keeps (Service.write out s field value) :=
  keeps_write H.update (fun _ _ _ => H.inert (.setService _ s _)) field value

theorem service_extend (s : Ref .service) (entries : Properties) :
    R.Keeps (Service.extend out s entries) :=
  keeps_extend H.update (fun _ _ => H.inert (.setService _ s _)) entries

theorem service_reduce (s : Ref .service) (entries : Properties) :
    R.Keeps (Service.reduce out s entries) :=
  keeps_reduce H.update (fun _ _ => H.inert (.setService _ s _)) entries

theorem registerService (className : String) (s : Ref .service) :
    R.Keeps (Provider.registerService out className s) :=
  keeps_registerService H.note H.tell
    (keeps_register H.update H.register fun _ _ => H.inert (.setService _ s _)) className

theorem unregisterService (className : String) (s : Ref .service) :
    R.Keeps (Provider.unregisterService out className s) :=
  keeps_unregisterService H.note H.tell
    (keeps_unregister H.unregister fun _ => H.inert (.setService _ s _)) className

theorem registerAll (s : Ref .provider) (component : Ref .component) :
    R.Keeps (Provider.registerAll out s component) :=
  (keeps_component component).bind fun _ => (keeps_provider s).bind fun _ =>
    Keeps.forM fun t _ => H.registerService _ t

theorem unregisterAll (s : Ref .provider) (component : Ref .component) :
    R.Keeps (Provider.unregisterAll out s component) :=
  (keeps_component component).bind fun _ => (keeps_provider s).bind fun _ =>
    Keeps.forM fun t _ => H.unregisterService _ t

theorem provider_start (s : Ref .provider) : R.Keeps (Provider.start out s) := by
  refine (keeps_provider s).bind fun _ => H.whileAlive fun component => ?_
  refine (keeps_component component).bind fun c => ?_
  split
  · exact H.registerAll s component
  · exact keeps_pure ()

theorem provider_stop (s : Ref .provider) : R.Keeps (Provider.stop out s) :=
  (keeps_provider s).bind fun _ => H.whileAlive fun component => H.unregisterAll s component

theorem provider_stateChanged (s : Ref .provider) (state : Validity) :
    R.Keeps (Provider.stateChanged out s state) := by
  refine (keeps_provider s).bind fun _ => H.whileAlive fun component => ?_
  cases state with
  | valid => exact H.registerAll s component
  | invalid => exact H.unregisterAll s component

theorem writeService (className field : String) (value : Value) (s : Ref .service) :
    R.Keeps (Provider.writeService out className field value s) := by
  refine (keeps_service s).bind fun service => ?_
  split
  · refine (H.service_write s field value).bind fun answer => ?_
    split
    · exact keeps_pure ()
    · exact H.note _
  · exact keeps_pure ()

theorem provider_fieldWritten (s : Ref .provider) (field : String) (value : Value) :
    R.Keeps (Provider.fieldWritten out s field value) := by
  refine (keeps_provider s).bind fun _ => H.whileAlive fun component => ?_
  exact (keeps_component component).bind fun _ => (keeps_provider s).bind fun _ =>
    Keeps.forM fun t _ => H.writeService _ field value t

theorem exchangeAll (s : Ref .provider) (operation : String)
    {exchange : Ref .service → Run σ (Except Failure Unit)}
    (hexchange : ∀ t, R.Keeps (exchange t)) :
    R.Keeps (Provider.exchangeAll out s operation exchange) := by
  refine (keeps_provider s).bind fun _ => H.whileAlive fun component => ?_
  refine (keeps_component component).bind fun _ => (keeps_provider s).bind fun _ => ?_
  refine Keeps.forM fun t _ => (hexchange t).bind fun answer => ?_
  split
  · exact keeps_pure ()
  · exact H.note _

/-! ## Configurators -/

theorem configurator_publish (s : Ref .configurator) :
    R.Keeps (Configurator.publish out s) := by
  refine (keeps_configurator s).bind fun before => ?_
  split
  · exact keeps_pure ()
  · refine (H.changeConfigurator s _).bind fun _ => H.whileAlive fun component => ?_
    refine (keeps_component component).bind fun c => ?_
    extract_lets className anew
    have hanew : ∀ u, R.Keeps (anew u) := by
      intro u
      refine keeps_platform.bind fun platform => (H.publish _ _ _).bind fun answer => ?_
      split
      · exact (H.changeConfigurator s _).bind fun _ => (H.note _).bind fun _ => H.tell _
      · exact H.note _
    split
    · exact hanew ()
    · refine (H.withdraw _).bind fun answer => ?_
      split
      · exact hanew ()
      · exact (H.note _).bind hanew

theorem configurator_withdraw (s : Ref .configurator) :
    R.Keeps (Configurator.withdraw out s) := by
  refine (keeps_configurator s).bind fun before => ?_
  split
  · exact keeps_pure ()
  · refine (H.changeConfigurator s _).bind fun _ => H.whileAlive fun component => ?_
    refine (keeps_component component).bind fun c => (H.withdraw _).bind fun answer => ?_
    split
    · exact (H.note _).bind fun _ => (keeps_configurator s).bind fun _ => H.tell _
    · exact H.note _

theorem configurator_stateChanged (s : Ref .configurator) (state : Validity) :
    R.Keeps (Configurator.stateChanged out s state) := by
  cases state with
  | valid =>
      refine (keeps_configurator s).bind fun c => ?_
      split
      · exact H.configurator_publish s
      · exact keeps_pure ()
  | invalid => exact H.configurator_withdraw s

theorem configurator_fieldWritten (s : Ref .configurator) (field : String) (value : Value) :
    R.Keeps (Configurator.fieldWritten out s field value) := by
  refine (keeps_configurator s).bind fun c => Keeps.forM fun t _ => ?_
  refine (keeps_property t).bind fun property => ?_
  split
  · split
    · exact keeps_pure ()
    · exact (H.setProperty t _).bind fun _ => H.note _
  · exact keeps_pure ()

/-! ## Handlers -/

theorem handler_start (handler : Handler) : R.Keeps (handler.start out) := by
  cases handler with
  | provider s => exact H.provider_start s
  | configurator s => exact H.configurator_publish s
  | caller s => exact keeps_pure ()
  | guest name number => exact H.notify number _

theorem handler_stop {handler : Handler} (hother : handler ≠ .caller k) :
    R.Keeps (handler.stop out) := by
  cases handler with
  | provider s => exact H.provider_stop s
  | configurator s => exact H.configurator_withdraw s
  | caller s =>
      intro w _
      rw [Handler.stop, Caller.stop, Run.ensures_changeCaller]
      exact H.inert (.changeCaller w _ fun heq => hother (heq ▸ rfl))
  | guest name number => exact H.notify number _

theorem handler_stateChanged {handler : Handler} (hother : handler.caller? = none)
    (state : Validity) : R.Keeps (handler.stateChanged out state) := by
  cases handler with
  | provider s => exact H.provider_stateChanged s state
  | configurator s => exact H.configurator_stateChanged s state
  | caller s => cases hother
  | guest name number => exact H.notify number _

theorem component_dispatch (s : Ref .component) (state : Validity) {handlers : List Handler}
    (hothers : ∀ handler ∈ handlers, handler.caller? = none) :
    R.Keeps (Component.dispatch out s state handlers) := by
  induction handlers with
  | nil => exact keeps_pure ()
  | cons handler rest ih =>
      obtain ⟨hother, hrest⟩ := List.forall_mem_cons.mp hothers
      refine (keeps_component s).bind fun component => ?_
      split
      · exact H.note _
      · exact (H.handler_stateChanged hother state).bind fun _ => ih hrest

theorem handler_fieldWritten (handler : Handler) (field : String) (value : Value) :
    R.Keeps (handler.fieldWritten out field value) := by
  cases handler with
  | provider s => exact H.provider_fieldWritten s field value
  | configurator s => exact H.configurator_fieldWritten s field value
  | caller s => exact keeps_pure ()
  | guest name number => exact H.notify number _

theorem allReady (handlers : List Handler) : R.Keeps (Component.allReady out handlers) := by
  induction handlers with
  | nil => exact keeps_pure true
  | cons handler rest ih =>
      have hready : R.Keeps (handler.isReady out) := by
        cases handler with
        | guest name number => exact H.ready number
        | _ => exact keeps_pure true
      refine hready.bind fun answer => ?_
      split
      · exact ih
      · exact keeps_pure false

/-! ## Fields and updates -/

theorem component_setField (s : Ref .component) (field : String) (value : Value) :
    R.Keeps (Component.setField out s field value) := by
  refine H.holding s ((keeps_component s).bind fun c => Keeps.bind ?_ fun _ => ?_)
  · exact Keeps.forM fun handler _ => H.handler_fieldWritten handler field value
  · intro w _
    rw [Run.ensures_changeComponent]
    exact H.inert (.changeComponent w s (fun _ => rfl) fun _ => rfl)

theorem applyEntry (component : Ref .component) (s : Ref .property) (incoming : Value) :
    R.Keeps (Configurator.applyEntry out component s incoming) := by
  rw [Configurator.applyEntry]
  refine (keeps_property s).bind fun property => ?_
  generalize property.coerce incoming = coerced
  refine (H.noteAll coerced.2).bind fun _ => ?_
  split
  · exact keeps_pure ()
  · split
    · exact H.component_setField component _ _
    · exact H.setProperty s _

theorem applyEntries (component : Ref .component) (className : String)
    (properties : List (Ref .property)) (entries : List (String × Value)) :
    R.Keeps (Configurator.applyEntries out component className properties entries) := by
  induction entries with
  | nil => exact keeps_pure []
  | cons entry rest ih =>
      refine (Tolerates.keeps_find? _ properties).bind fun found => ?_
      split
      · exact (H.applyEntry component _ _).bind fun _ => ih
      · exact (H.note _).bind fun _ => ih.bind fun _ => keeps_pure _

theorem configurator_propagate (s : Ref .configurator) (component : Ref .component)
    (entries : Properties) : R.Keeps (Configurator.propagate out s component entries) := by
  refine (keeps_configurator s).bind fun c => ?_
  extract_lets previous
  split
  · exact keeps_pure ()
  · refine (keeps_component component).bind fun holder => ?_
    split
    · exact H.note _
    next provider _ =>
      refine (H.note _).bind fun _ => ?_
      extract_lets addEntries
      have haddEntries : ∀ u, R.Keeps (addEntries u) := by
        intro u
        simp only [addEntries]
        split
        · rw [Provider.extendAll_eq]
          exact (H.exchangeAll provider _ fun t => H.service_extend t entries).bind
            fun _ => H.changeConfigurator s _
        · exact H.changeConfigurator s _
      split
      · rw [Provider.reduceAll_eq]
        exact (H.exchangeAll provider _ fun t => H.service_reduce t previous).bind haddEntries
      · exact haddEntries ()

theorem configurator_updated (s : Ref .configurator) (configuration : Option Properties) :
    R.Keeps (Configurator.updated out s configuration) := by
  refine (keeps_configurator s).bind fun before => H.whileAlive fun component => ?_
  refine (keeps_component component).bind fun c => ?_
  split
  · exact H.note _
  · exact (H.applyEntries component _ _ _).bind fun unmatched => H.configurator_propagate s component _

end Regime.Endures

end Componentry

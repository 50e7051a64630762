import Componentry.Engine.Updating
import Componentry.Proofs.Run.Turn

/-!
# Ensembles

An ensemble is a component with one handler of each kind of the library, the services
that the provider holds and the properties that the configurator holds. Once they are
configured, operations change none of this.

Most steps of an operation are slight: they change nothing that matters outside the
object that they concern. So a regime that bears slight steps, calls of the collaborators
and changes of services bears field writes and configuration updates.
-/

namespace Componentry

variable {σ α : Type}

/-- A component with its handlers and what they hold. -/
structure Ensemble where
  component : Ref .component
  provider : Ref .provider
  configurator : Ref .configurator
  caller : Ref .caller
  services : List (Ref .service)
  properties : List (Ref .property)

namespace Ensemble

/-- What can be asked of an ensemble. -/
inductive Operation
  | start
  | stop
  | checkValidity
  | setState (state : Validity)
  | setField (field : String) (value : Value)
  | update (configuration : Option Properties)

/-- Run an operation of an ensemble. -/
def Operation.run (out : Collaborators σ) (e : Ensemble) : Operation → Run σ Unit
  | start => Component.start out e.component
  | stop => Component.stop out e.component
  | checkValidity => Component.checkValidity out e.component
  | setState state => Component.setState out e.component state
  | setField field value => Component.setField out e.component field value
  | update configuration => Configurator.updated out e.configurator configuration

/-- A world in which an operation of the ensemble ends. -/
def Operates (e : Ensemble) (out : Collaborators σ) (w w' : World σ) : Prop :=
  ∃ operation : Operation, (operation.run out e).run w = some ((), w')

/-- A method that runs operations one after the other. -/
def performing (e : Ensemble) (below : Collaborators σ) (operations : List Operation)
    (ending : Ending) : Run σ Ending := do
  operations.forM fun operation => operation.run below e
  return ending

theorem turn_performing {idle : World σ → World σ → Prop} (e : Ensemble)
    (below : Collaborators σ) (operations : List Operation) (ending : Ending) (w : World σ) :
    (e.performing below operations ending).Ensures w fun _ =>
      Turn idle (e.Operates below) w := by
  simp only [performing, Run.ensures_bind, Run.ensures_pure]
  refine Run.ensures_forM (Turn idle (e.Operates below) w) ?_ .refl
  intro operation _ u hu _ v hrun
  exact hu.tail (.inr ⟨operation, hrun⟩)

/-- The handlers of an ensemble. -/
def handlers (e : Ensemble) : List Handler :=
  [.provider e.provider, .configurator e.configurator, .caller e.caller]

theorem mem_handlers {e : Ensemble} {handler : Handler} :
    handler ∈ e.handlers ↔ handler = .provider e.provider ∨
      handler = .configurator e.configurator ∨ handler = .caller e.caller := by
  simp [handlers]

/-- A component with no other handlers has no other provider. -/
theorem eq_provider {e : Ensemble} {c : Component} {r : Ref .provider}
    (hhandlers : ∀ handler ∈ c.handlers, handler ∈ e.handlers) (hr : c.provider? = some r) :
    e.provider = r := by
  obtain ⟨handler, hmem, hhandler⟩ := List.exists_of_findSome?_eq_some hr
  rcases mem_handlers.mp (hhandlers handler hmem) with rfl | rfl | rfl
  · exact Option.some.inj hhandler
  · cases hhandler
  · cases hhandler

/-- The ensemble is configured: its handlers belong to its component, which has no
others, and hold what they hold. A provider with services is registered. -/
structure Stands (e : Ensemble) (w : World σ) : Prop where
  owned : (w.component e.component).owned = true
  handlers : ∀ handler ∈ (w.component e.component).handlers, handler ∈ e.handlers
  provider : w.provider e.provider = ⟨some e.component, e.services⟩
  registered : e.services ≠ [] → .provider e.provider ∈ (w.component e.component).handlers
  configurator : (w.configurator e.configurator).component = some e.component
  properties : (w.configurator e.configurator).properties = e.properties
  caller : (w.caller e.caller).component = some e.component

end Ensemble

/-- Operations of every layer stay in a regime if they do so provided that those called within
them do. -/
theorem Layered.operates_allowed {R : Regime σ} {e : Ensemble} {out : Collaborators σ}
    {rule : (World σ → World σ → Prop) → Collaborators σ → Prop} {w w' : World σ}
    (hout : Layered e.Operates rule out)
    (hoperation : ∀ callbacks out, (∀ u v, callbacks u v → R.Allows u v) → rule callbacks out →
      ∀ operation : Ensemble.Operation, R.Keeps (operation.run out e))
    (hoperates : e.Operates out w w') : R.Allows w w' := by
  refine hout.acts_allowed ?_ w w' hoperates
  intro callbacks out hcallbacks hrule u v ⟨operation, hrun⟩ hu
  exact hoperation callbacks out hcallbacks hrule operation u hu () v hrun hu

/-- A provider that is not registered has no services. -/
theorem Ensemble.Stands.services_eq_nil {e : Ensemble} {w : World σ} (hstands : e.Stands w)
    (hnot : .provider e.provider ∉ (w.component e.component).handlers) : e.services = [] :=
  Decidable.byContradiction fun hservices => hnot (hstands.registered hservices)

/-- A provider with services is the provider of its component. -/
theorem Ensemble.Stands.provider?_eq {e : Ensemble} {w : World σ} (hstands : e.Stands w)
    (hservices : e.services ≠ []) :
    (w.component e.component).provider? = some e.provider := by
  cases hfound : (w.component e.component).provider? with
  | none =>
      have hmiss := List.findSome?_eq_none_iff.mp hfound _ (hstands.registered hservices)
      cases hmiss
  | some r => rw [Ensemble.eq_provider hstands.handlers hfound]

/-- A step that only changes what concerns no other object: how a component is held and
what is stored for it, the value of a property. -/
structure Slight (w w' : World σ) : Prop where
  surroundings : w'.surroundings = w.surroundings
  owned : ∀ r, (w'.component r).owned = (w.component r).owned
  attachments : ∀ r, (w'.component r).attachments = (w.component r).attachments
  state : ∀ r, (w'.component r).state = (w.component r).state
  service : w'.service = w.service
  provider : w'.provider = w.provider
  propertyName : ∀ r, (w'.property r).name = (w.property r).name
  propertyField : ∀ r, (w'.property r).field = (w.property r).field
  configurator : w'.configurator = w.configurator
  caller : w'.caller = w.caller

namespace Slight

variable (w : World σ)

theorem changeComponent (r : Ref .component) {f : Component → Component}
    (howned : ∀ c, (f c).owned = c.owned) (hattachments : ∀ c, (f c).attachments = c.attachments)
    (hstate : ∀ c, (f c).state = c.state) : Slight w (w.changeComponent r f) where
  surroundings := rfl
  owned := w.component_changeComponent_same Component.owned howned r
  attachments := w.component_changeComponent_same Component.attachments hattachments r
  state := w.component_changeComponent_same Component.state hstate r
  service := rfl
  provider := rfl
  propertyName _ := rfl
  propertyField _ := rfl
  configurator := rfl
  caller := rfl

theorem hold (r : Ref .component) : Slight w (w.hold r) :=
  changeComponent w r (fun _ => rfl) (fun _ => rfl) (fun _ => rfl)

theorem release (r : Ref .component) : Slight w (w.release r) :=
  changeComponent w r (fun _ => rfl) (fun _ => rfl) (fun _ => rfl)

theorem setProperty (r : Ref .property) {property : ConfigurableProperty}
    (hname : property.name = (w.property r).name)
    (hfield : property.field = (w.property r).field) : Slight w (w.setProperty r property) := by
  constructor <;> try simp
  all_goals
    intro s
    split
    next heq => simp only [heq, hname, hfield]
    next => rfl

end Slight

/-- A step that is slight but for a publication or a tracked state. -/
structure Quiet (w w' : World σ) : Prop where
  surroundings : w'.surroundings = w.surroundings
  owned : ∀ r, (w'.component r).owned = (w.component r).owned
  attachments : ∀ r, (w'.component r).attachments = (w.component r).attachments
  state : ∀ r, (w'.component r).state = (w.component r).state
  service : w'.service = w.service
  provider : w'.provider = w.provider
  propertyName : ∀ r, (w'.property r).name = (w.property r).name
  boundTo : ∀ r, (w'.configurator r).component = (w.configurator r).component
  properties : ∀ r, (w'.configurator r).properties = (w.configurator r).properties
  propagated : ∀ r, (w'.configurator r).propagated = (w.configurator r).propagated
  calledFor : ∀ r, (w'.caller r).component = (w.caller r).component

theorem Slight.quiet {w w' : World σ} (h : Slight w w') : Quiet w w' where
  surroundings := h.surroundings
  owned := h.owned
  attachments := h.attachments
  state := h.state
  service := h.service
  provider := h.provider
  propertyName := h.propertyName
  boundTo r := by rw [h.configurator]
  properties r := by rw [h.configurator]
  propagated r := by rw [h.configurator]
  calledFor r := by rw [h.caller]

namespace Quiet

variable (w : World σ)

theorem changeConfigurator (r : Ref .configurator) {f : Configurator → Configurator}
    (hcomponent : ∀ c, (f c).component = c.component)
    (hproperties : ∀ c, (f c).properties = c.properties)
    (hpropagated : ∀ c, (f c).propagated = c.propagated) :
    Quiet w (w.changeConfigurator r f) where
  surroundings := rfl
  owned _ := rfl
  attachments _ := rfl
  state _ := rfl
  service := rfl
  provider := rfl
  propertyName _ := rfl
  boundTo := w.configurator_changeConfigurator_same Configurator.component hcomponent r
  properties := w.configurator_changeConfigurator_same Configurator.properties hproperties r
  propagated := w.configurator_changeConfigurator_same Configurator.propagated hpropagated r
  calledFor _ := rfl

theorem changeCaller (r : Ref .caller) {f : Caller → Caller}
    (hcomponent : ∀ c, (f c).component = c.component) : Quiet w (w.changeCaller r f) := by
  constructor <;> try simp
  intro s
  split
  next heq => simp [heq, hcomponent]
  next => rfl

end Quiet

/-- How an ensemble stands is a matter of the platform. -/
theorem Ensemble.Stands.of_platform {e : Ensemble} {w w' : World σ} (hstands : e.Stands w)
    (hplatform : w'.platform = w.platform) : e.Stands w' := by
  obtain ⟨hcomponent, -, -, hprovider, hconfigurator, hcaller⟩ :=
    World.objects_of_platform hplatform
  obtain ⟨howned, hhandlers, hholder, hregistered, hbound, hproperties, hcalled⟩ := hstands
  constructor <;> simp only [hcomponent, hprovider, hconfigurator, hcaller] <;> assumption

theorem Ensemble.Stands.changeComponent {e : Ensemble} {w : World σ} {r : Ref .component}
    {f : Component → Component} (hstands : e.Stands w) (howned : ∀ c, (f c).owned = c.owned)
    (hattachments : ∀ c, (f c).attachments = c.attachments) :
    e.Stands (w.changeComponent r f) := by
  have hhandlers := w.component_changeComponent_same Component.handlers
    (fun c => congrArg (List.map Attachment.handler) (hattachments c)) r e.component
  constructor
  · rw [w.component_changeComponent_same Component.owned howned, hstands.owned]
  · rw [hhandlers]
    exact hstands.handlers
  · exact hstands.provider
  · rw [hhandlers]
    exact hstands.registered
  · exact hstands.configurator
  · exact hstands.properties
  · exact hstands.caller

theorem Ensemble.Stands.changeConfigurator {e : Ensemble} {w : World σ} {r : Ref .configurator}
    {f : Configurator → Configurator} (hstands : e.Stands w)
    (hcomponent : ∀ c, (f c).component = c.component)
    (hproperties : ∀ c, (f c).properties = c.properties) :
    e.Stands (w.changeConfigurator r f) := by
  refine ⟨hstands.owned, hstands.handlers, hstands.provider, hstands.registered, ?_, ?_,
    hstands.caller⟩
  · rw [w.configurator_changeConfigurator_same Configurator.component hcomponent,
      hstands.configurator]
  · rw [w.configurator_changeConfigurator_same Configurator.properties hproperties,
      hstands.properties]

/-- Quiet steps do not change how an ensemble stands. -/
theorem Ensemble.Stands.of_quiet {e : Ensemble} {w w' : World σ} (hstands : e.Stands w)
    (hquiet : Quiet w w') : e.Stands w' := by
  have hhandlers : (w'.component e.component).handlers = (w.component e.component).handlers :=
    congrArg (List.map Attachment.handler) (hquiet.attachments e.component)
  constructor
  · rw [hquiet.owned, hstands.owned]
  · rw [hhandlers]
    exact hstands.handlers
  · rw [hquiet.provider, hstands.provider]
  · rw [hhandlers]
    exact hstands.registered
  · rw [hquiet.boundTo, hstands.configurator]
  · rw [hquiet.properties, hstands.properties]
  · rw [hquiet.calledFor, hstands.caller]

end Componentry

import Componentry.Proofs.Ensemble.Admission
import Componentry.Proofs.Registry.Memory

/-!
# Assembling an ensemble

A component that is configured once with the three handlers, in whatever order, makes an
ensemble that stands. The services of its provider are new, each has a specification,
and none is registered or carries propagated entries. The configurator has published
nothing, and is registered if the component is declared configurable. The caller has the
declared callbacks and has seen no state.
-/

namespace Componentry

variable {σ τ α : Type}

@[simp] theorem ServiceProperty.declared_create (declared : PropertyDescriptor) :
    (create declared).1.declared = declared := by
  unfold create
  split
  · rfl
  · split <;> rfl

@[simp] theorem ServiceProperty.declared_configured (property : ServiceProperty)
    (configuration : Properties) :
    (property.configured configuration).declared = property.declared := by
  unfold configured assign?
  split
  · split <;> rfl
  · rfl

/-- A service that was just made from an accepted declaration. -/
structure Service.Fresh (service : Service) : Prop where
  specified : service.specifications ≠ []
  extras : service.extras = .empty
  unregistered : service.registration = none
  described : service.properties.map ServiceProperty.declared = service.declared.properties

/-- A component is created and then configured with the handlers of the ensemble, which
come to hold its services and properties. -/
structure Ensemble.Assembled (e : Ensemble) (out : Collaborators σ) (w w' : World σ) : Prop where
  created : ∃ descriptor methods,
    w.component e.component = Component.create descriptor methods
  configured : ∃ candidates configuration, candidates.Perm e.handlers ∧
    (Component.configure out e.component candidates configuration).run w = some ((), w')
  services : (w'.provider e.provider).services = e.services
  properties : (w'.configurator e.configurator).properties = e.properties

/-- What a handler does while it reads a description: it makes services or properties, and
touches neither the state of the component nor what other handlers hold. -/
structure Outfits (view : σ → τ) (handler : Handler) (w w' : World σ) : Prop where
  surroundings : view w'.surroundings = view w.surroundings
  descriptor : ∀ r, (w'.component r).descriptor = (w.component r).descriptor
  methods : ∀ r, (w'.component r).methods = (w.component r).methods
  owned : ∀ r, (w'.component r).owned = (w.component r).owned
  state : ∀ r, (w'.component r).state = (w.component r).state
  attachments : ∀ r, (w'.component r).attachments = (w.component r).attachments
  provider : w'.provider = w.provider
  boundTo : ∀ r, (w'.configurator r).component = (w.configurator r).component
  propagated : ∀ r, (w'.configurator r).propagated = (w.configurator r).propagated
  publication : ∀ r, (w'.configurator r).publication = (w.configurator r).publication
  configurator : ∀ r, .configurator r ≠ handler → w'.configurator r = w.configurator r
  caller : w'.caller = w.caller
  next : w.nextService.index ≤ w'.nextService.index
  service : ∀ r, r.index < w.nextService.index → w'.service r = w.service r

/-- The regime of reading a description. -/
def outfitting (view : σ → τ) (handler : Handler) : Regime σ where
  holds _ := True
  leads := Outfits view handler
  refl _ := ⟨rfl, fun _ => rfl, fun _ => rfl, fun _ => rfl, fun _ => rfl, fun _ => rfl, rfl,
    fun _ => rfl, fun _ => rfl, fun _ => rfl, fun _ _ => rfl, rfl, Nat.le_refl _, fun _ _ => rfl⟩
  trans huv hvw := {
    surroundings := hvw.surroundings.trans huv.surroundings
    descriptor := fun r => (hvw.descriptor r).trans (huv.descriptor r)
    methods := fun r => (hvw.methods r).trans (huv.methods r)
    owned := fun r => (hvw.owned r).trans (huv.owned r)
    state := fun r => (hvw.state r).trans (huv.state r)
    attachments := fun r => (hvw.attachments r).trans (huv.attachments r)
    provider := hvw.provider.trans huv.provider
    boundTo := fun r => (hvw.boundTo r).trans (huv.boundTo r)
    propagated := fun r => (hvw.propagated r).trans (huv.propagated r)
    publication := fun r => (hvw.publication r).trans (huv.publication r)
    configurator := fun r hr => (hvw.configurator r hr).trans (huv.configurator r hr)
    caller := hvw.caller.trans huv.caller
    next := Nat.le_trans huv.next hvw.next
    service := fun r hr =>
      (hvw.service r (Nat.lt_of_lt_of_le hr huv.next)).trans (huv.service r hr) }

variable {view : σ → τ} {handler : Handler} {w w' : World σ}

theorem Outfits.refl (w : World σ) : Outfits view handler w w := (outfitting view handler).refl w

theorem Outfits.trans {u v : World σ} (huv : Outfits view handler u v)
    (hvw : Outfits view handler v w) : Outfits view handler u w :=
  (outfitting view handler).trans huv hvw

/-- Where no configurator reads a description, all of them stay as they are. -/
theorem Outfits.of_guest {name : String} {number : Nat}
    (h : Outfits view (.guest name number) w w') : Outfits view handler w w' :=
  { h with configurator := fun r _ => h.configurator r (by simp) }

theorem Outfits.changeComponent (r : Ref .component) {f : Component → Component}
    (hdescriptor : ∀ c, (f c).descriptor = c.descriptor) (hmethods : ∀ c, (f c).methods = c.methods)
    (howned : ∀ c, (f c).owned = c.owned) (hstate : ∀ c, (f c).state = c.state)
    (hattachments : ∀ c, (f c).attachments = c.attachments) :
    Outfits view handler w (w.changeComponent r f) :=
  { Outfits.refl w with
    descriptor := w.component_changeComponent_same Component.descriptor hdescriptor r
    methods := w.component_changeComponent_same Component.methods hmethods r
    owned := w.component_changeComponent_same Component.owned howned r
    state := w.component_changeComponent_same Component.state hstate r
    attachments := w.component_changeComponent_same Component.attachments hattachments r }

theorem World.configurator_changeConfigurator_other {r : Ref .configurator}
    {f : Configurator → Configurator} (s : Ref .configurator)
    (hs : .configurator s ≠ Handler.configurator r) :
    (w.changeConfigurator r f).configurator s = w.configurator s := by
  rw [World.configurator_changeConfigurator, if_neg]
  rintro rfl
  exact hs rfl

theorem Outfits.changeConfigurator (r : Ref .configurator) {f : Configurator → Configurator}
    (hcomponent : ∀ c, (f c).component = c.component)
    (hpropagated : ∀ c, (f c).propagated = c.propagated)
    (hpublication : ∀ c, (f c).publication = c.publication) :
    Outfits view (.configurator r) w (w.changeConfigurator r f) :=
  { (Outfits.refl w : Outfits view (.configurator r) w w) with
    boundTo := w.configurator_changeConfigurator_same Configurator.component hcomponent r
    propagated := w.configurator_changeConfigurator_same Configurator.propagated hpropagated r
    publication := w.configurator_changeConfigurator_same Configurator.publication hpublication r
    configurator := World.configurator_changeConfigurator_other }

theorem Outfits.addProperty (property : ConfigurableProperty) :
    Outfits view handler w (w.addProperty property) :=
  { Outfits.refl w with }

theorem Outfits.setProperty (r : Ref .property) (property : ConfigurableProperty) :
    Outfits view handler w (w.setProperty r property) :=
  { Outfits.refl w with }

theorem Outfits.addService (service : Service) : Outfits view handler w (w.addService service) :=
  { Outfits.refl w with
    next := Nat.le_succ _
    service := fun r hr => by
      rw [World.service_addService, if_neg]
      rintro rfl
      exact Nat.lt_irrefl _ hr }

/-- Registering a handler leaves those in front of it where they are. -/
theorem Attachment.handlers_register_ahead (handler : Handler) (fields : List String)
    (attachments : List Attachment) :
    attachments.map Attachment.handler <+:
      (register handler fields attachments).map Attachment.handler := by
  induction attachments with
  | nil => exact List.nil_prefix
  | cons attachment rest ih =>
      unfold register
      split
      next => exact List.prefix_rfl
      next => exact List.cons_prefix_cons.mpr ⟨rfl, ih⟩

namespace Attachment

theorem mem_addFields {field : String} {fields others : List String} :
    field ∈ addFields fields others ↔ field ∈ fields ∨ field ∈ others := by
  induction others generalizing fields with
  | nil => simp [addFields]
  | cons other rest ih =>
      rw [addFields, ih]
      split
      next hmem =>
        have hmem : other ∈ fields := by simpa using hmem
        grind
      next => grind

/-- A handler that is registered with fields is interested in them, and every handler in what
it was interested in before. -/
theorem exists_register_iff {handler other : Handler} {field : String} {fields : List String}
    {attachments : List Attachment} :
    (∃ a ∈ register handler fields attachments, a.handler = other ∧ field ∈ a.fields) ↔
      (other = handler ∧ field ∈ fields) ∨
        ∃ a ∈ attachments, a.handler = other ∧ field ∈ a.fields := by
  induction attachments with
  | nil => simp [register, eq_comm]
  | cons attachment rest ih =>
      rw [register]
      split
      next heq =>
        simp only [List.exists_mem_cons_iff, mem_addFields, heq]
        grind
      next =>
        rw [List.exists_mem_cons_iff, ih, List.exists_mem_cons_iff]
        exact or_left_comm

end Attachment

theorem Component.mem_interested {c : Component} {handler : Handler} {field : String} :
    handler ∈ c.interested field ↔ ∃ a ∈ c.attachments, a.handler = handler ∧ field ∈ a.fields := by
  simp only [interested, List.mem_map, List.mem_filter, List.contains_iff_mem]
  grind

/-- What the configuration of one handler leaves: only it can be registered, behind those that
are, and what other handlers hold stays. -/
structure Configures (view : σ → τ) (handler : Handler) (w w' : World σ) : Prop where
  surroundings : view w'.surroundings = view w.surroundings
  descriptor : ∀ r, (w'.component r).descriptor = (w.component r).descriptor
  methods : ∀ r, (w'.component r).methods = (w.component r).methods
  owned : ∀ r, (w'.component r).owned = (w.component r).owned
  state : ∀ r, (w'.component r).state = (w.component r).state
  handlers : ∀ r other, other ∈ (w'.component r).handlers →
    other = handler ∨ other ∈ (w.component r).handlers
  registered : ∀ r other, other ∈ (w.component r).handlers → other ∈ (w'.component r).handlers
  interested : ∀ r other field,
    other ∈ (w.component r).interested field → other ∈ (w'.component r).interested field
  ahead : ∀ r, (w.component r).handlers <+: (w'.component r).handlers
  distinct : ∀ r, (w.component r).handlers.Nodup → (w'.component r).handlers.Nodup
  provider : ∀ r, .provider r ≠ handler → w'.provider r = w.provider r
  configurator : ∀ r, .configurator r ≠ handler → w'.configurator r = w.configurator r
  caller : ∀ r, .caller r ≠ handler → w'.caller r = w.caller r
  next : w.nextService.index ≤ w'.nextService.index
  service : ∀ r, r.index < w.nextService.index → w'.service r = w.service r

namespace Configures

variable {u v : World σ}

theorem of_outfits (h : Outfits view handler w w') : Configures view handler w w' where
  surroundings := h.surroundings
  descriptor := h.descriptor
  methods := h.methods
  owned := h.owned
  state := h.state
  handlers r other hmem := by
    rw [Component.handlers, h.attachments] at hmem
    exact .inr hmem
  registered r other hmem := by
    rw [Component.handlers, h.attachments]
    exact hmem
  interested r other field hmem := by
    rw [Component.interested, h.attachments]
    exact hmem
  ahead r := by
    have hsame : (w'.component r).handlers = (w.component r).handlers := by
      rw [Component.handlers, Component.handlers, h.attachments]
    exact hsame ▸ List.prefix_rfl
  distinct r hdistinct := by
    rw [Component.handlers, h.attachments]
    exact hdistinct
  provider r _ := by rw [h.provider]
  configurator := h.configurator
  caller r _ := by rw [h.caller]
  next := h.next
  service := h.service

theorem trans (huv : Configures view handler u v) (hvw : Configures view handler v w) :
    Configures view handler u w where
  surroundings := hvw.surroundings.trans huv.surroundings
  descriptor r := (hvw.descriptor r).trans (huv.descriptor r)
  methods r := (hvw.methods r).trans (huv.methods r)
  owned r := (hvw.owned r).trans (huv.owned r)
  state r := (hvw.state r).trans (huv.state r)
  handlers r other hmem := (hvw.handlers r other hmem).elim .inl (huv.handlers r other)
  registered r other hmem := hvw.registered r other (huv.registered r other hmem)
  interested r other field hmem := hvw.interested r other field (huv.interested r other field hmem)
  ahead r := (huv.ahead r).trans (hvw.ahead r)
  distinct r hdistinct := hvw.distinct r (huv.distinct r hdistinct)
  provider r hr := (hvw.provider r hr).trans (huv.provider r hr)
  configurator r hr := (hvw.configurator r hr).trans (huv.configurator r hr)
  caller r hr := (hvw.caller r hr).trans (huv.caller r hr)
  next := Nat.le_trans huv.next hvw.next
  service r hr := (hvw.service r (Nat.lt_of_lt_of_le hr huv.next)).trans (huv.service r hr)

theorem changeProvider (r : Ref .provider) (f : Provider → Provider) :
    Configures view (.provider r) w (w.changeProvider r f) :=
  { of_outfits (.refl w) with
    provider := fun s hs => by
      rw [World.provider_changeProvider, if_neg]
      rintro rfl
      exact hs rfl }

theorem changeConfigurator (r : Ref .configurator) (f : Configurator → Configurator) :
    Configures view (.configurator r) w (w.changeConfigurator r f) :=
  { of_outfits (.refl w) with configurator := World.configurator_changeConfigurator_other }

theorem changeCaller (r : Ref .caller) (f : Caller → Caller) :
    Configures view (.caller r) w (w.changeCaller r f) :=
  { of_outfits (.refl w) with
    caller := fun s hs => by
      rw [World.caller_changeCaller, if_neg]
      rintro rfl
      exact hs rfl }

end Configures

section Reading

variable {out : Collaborators σ} (hlog : ∀ record t, view (out.log record t) = view t)
include hlog

theorem outfits_note (record : Log.Record) (w : World σ) :
    Outfits view handler w (w.changeSurroundings (out.log record)) :=
  { (Outfits.refl w : Outfits view handler w w) with surroundings := hlog record w.surroundings }

theorem outfitting_note (handler : Handler) (record : Log.Record) :
    (outfitting view handler).Keeps (out.note record) := by
  intro w _
  rw [Run.ensures_note]
  intro _
  exact ⟨trivial, outfits_note hlog record w⟩

theorem outfitting_noteAll (handler : Handler) (records : List Log.Record) :
    (outfitting view handler).Keeps (out.noteAll records) :=
  Regime.Keeps.forM fun record _ => outfitting_note hlog handler record

/-- A service that is offered is new. -/
theorem ensures_offer (handler : Handler) (component : Ref .component) {declared : ServiceDescriptor}
    (hspecified : declared.specifications ≠ []) (configuration : Properties) (w : World σ) :
    (Provider.offer out component declared configuration).Ensures w fun s w' =>
      Outfits view handler w w' ∧ w.nextService.index ≤ s.index ∧ s.index < w'.nextService.index ∧
        (w'.service s).Fresh := by
  simp only [Provider.offer, Component.changeSurface, Run.ensures_bind]
  refine (outfitting_noteAll hlog handler _ w trivial).mono ?_
  intro _ u hnoted
  obtain ⟨-, hfirst⟩ := hnoted trivial
  rw [Run.ensures_changeComponent, Run.ensures_addService]
  refine ⟨hfirst.trans (.trans (.changeComponent component ?_ ?_ ?_ ?_ ?_) (.addService _)),
    hfirst.next, Nat.lt_succ_self _, ?_⟩
  iterate 5 exact fun _ => rfl
  rw [World.service_addService, if_pos rfl]
  exact ⟨hspecified, rfl, rfl, by simp [Service.create, Service.configured, Function.comp_def]⟩

theorem ensures_offerAll (handler : Handler) (component : Ref .component)
    (descriptor : ComponentDescriptor) (configuration : Properties) (elements : List Element) (w : World σ) :
    (Provider.offerAll out component descriptor configuration elements).Ensures w
      fun services w' => Outfits view handler w w' ∧ services.Nodup ∧
        ∀ s ∈ services, w.nextService.index ≤ s.index ∧ s.index < w'.nextService.index ∧
          (w'.service s).Fresh := by
  induction elements generalizing w with
  | nil => exact (Run.ensures_pure _).mpr ⟨.refl w, List.nodup_nil, by simp⟩
  | cons element rest ih =>
      simp only [Provider.offerAll, Run.ensures_bind]
      refine (outfitting_noteAll hlog handler _ w trivial).mono ?_
      intro _ u hdeclared
      refine (outfitting_noteAll hlog handler _ u trivial).mono ?_
      intro _ v hreviewed
      have hbefore : Outfits view handler w v := (hdeclared trivial).2.trans (hreviewed trivial).2
      split
      next haccepted =>
        simp only [Run.ensures_bind, Run.ensures_pure]
        refine (ensures_offer hlog handler component
          (ServiceDescriptor.specifications_ne_nil_of_accepted haccepted) configuration v).mono ?_
        rintro s x ⟨hoffer, hlow, hhigh, hfresh⟩
        refine (ih x).mono ?_
        rintro services w' ⟨hrest, hdistinct, hservices⟩
        refine ⟨hbefore.trans (hoffer.trans hrest), ?_, ?_⟩
        · -- Services made later have later references.
          refine List.nodup_cons.mpr ⟨?_, hdistinct⟩
          intro hmem
          have hle := (hservices s hmem).1
          omega
        · intro t ht
          rcases List.mem_cons.mp ht with rfl | hlater
          · refine ⟨Nat.le_trans hbefore.next hlow, Nat.lt_of_lt_of_le hhigh hrest.next, ?_⟩
            rw [hrest.service t hhigh]
            exact hfresh
          · obtain ⟨hlow', hhigh', hfresh'⟩ := hservices t hlater
            exact ⟨Nat.le_trans (hbefore.trans hoffer).next hlow', hhigh', hfresh'⟩
      next =>
        rw [Run.ensures_bind]
        refine (outfitting_note hlog handler _ v trivial).mono ?_
        intro _ x hnoted
        have hnext : Outfits view handler w x := hbefore.trans (hnoted trivial).2
        refine (ih x).mono ?_
        rintro services w' ⟨hrest, hdistinct, hservices⟩
        refine ⟨hnext.trans hrest, hdistinct, fun t ht => ?_⟩
        obtain ⟨hlow, hhigh, hfresh⟩ := hservices t ht
        exact ⟨Nat.le_trans hnext.next hlow, hhigh, hfresh⟩

end Reading

/-! ## Handlers -/

/-- The description asks for an endpoint: it declares its properties to be configurable, and
one of them has a name or a field. -/
def ComponentDescriptor.IsConfigurable (descriptor : ComponentDescriptor) : Prop :=
  ∃ declaration, descriptor.root.first? "Properties" = some declaration ∧
    Configurator.isConfigurable declaration = true ∧
    ∃ property ∈ declaration.childrenNamed "Property",
      ((property.attribute? "name").or (property.attribute? "field")).isSome = true

instance (descriptor : ComponentDescriptor) : Decidable descriptor.IsConfigurable :=
  match hfirst : descriptor.root.first? "Properties" with
  | none => isFalse fun ⟨_, hfound, _⟩ => nomatch hfirst.symm.trans hfound
  | some declaration =>
      decidable_of_iff
        (Configurator.isConfigurable declaration = true ∧
          ∃ property ∈ declaration.childrenNamed "Property",
            ((property.attribute? "name").or (property.attribute? "field")).isSome = true)
        ⟨fun hasks => ⟨declaration, hfirst, hasks⟩, fun ⟨_, hfound, hasks⟩ =>
          Option.some.inj (hfirst.symm.trans hfound) ▸ hasks⟩

/-- The callbacks that a component declares, bound to its methods. -/
def Component.declaredCallbacks (component : Component) : List Callback :=
  (Caller.readCallbacks component.className component.methods
    (component.descriptor.root.childrenNamed "callback")).1

theorem Component.declaredCallbacks_congr {c c' : Component}
    (hdescriptor : c'.descriptor = c.descriptor) (hmethods : c'.methods = c.methods) :
    c'.declaredCallbacks = c.declaredCallbacks := by
  rw [declaredCallbacks, declaredCallbacks, className, className, hdescriptor, hmethods]

/-- A handler of the ensemble has been configured for its component. -/
def Ensemble.Equips (e : Ensemble) (w : World σ) : Handler → Prop
  | .provider r => (w.provider r).component = some e.component ∧
      (w.provider r).services.Nodup ∧
      (∀ s ∈ (w.provider r).services, s.index < w.nextService.index ∧ (w.service s).Fresh) ∧
      ((w.provider r).services ≠ [] → .provider r ∈ (w.component e.component).handlers) ∧
      ∀ s ∈ (w.provider r).services, ∀ property ∈ (w.service s).properties,
        ∀ field ∈ property.declared.field,
          .provider r ∈ (w.component e.component).interested field
  | .configurator r => (w.configurator r).component = some e.component ∧
      (w.configurator r).propagated = .empty ∧ (w.configurator r).publication = none ∧
      ((w.component e.component).descriptor.IsConfigurable →
        (w.configurator r).configurable = true ∧
          .configurator r ∈ (w.component e.component).handlers)
  | .caller r => (w.caller r).component = some e.component ∧ (w.caller r).tracked = .invalid ∧
      (w.caller r).callbacks = (w.component e.component).declaredCallbacks ∧
      ((w.caller r).callbacks ≠ [] → .caller r ∈ (w.component e.component).handlers)
  | .guest _ _ => True

/-- Configuring a handler leaves the others as they are equipped. -/
theorem Ensemble.Equips.of_configures {e : Ensemble} {other : Handler}
    (hequips : e.Equips w other) (h : Configures view handler w w') (hne : other ≠ handler) :
    e.Equips w' other := by
  cases other with
  | provider r =>
      obtain ⟨hcomponent, hdistinct, hfresh, hregistered, hinterested⟩ := hequips
      rw [Ensemble.Equips, h.provider r hne]
      refine ⟨hcomponent, hdistinct, ?_, fun hne => h.registered _ _ (hregistered hne), ?_⟩
      · intro s hs
        obtain ⟨hindex, hservice⟩ := hfresh s hs
        rw [h.service s hindex]
        exact ⟨Nat.lt_of_lt_of_le hindex h.next, hservice⟩
      · intro s hs property hproperty field hfield
        rw [h.service s (hfresh s hs).1] at hproperty
        exact h.interested _ _ field (hinterested s hs property hproperty field hfield)
  | configurator r =>
      obtain ⟨hcomponent, hpropagated, hpublication, hregistered⟩ := hequips
      rw [Ensemble.Equips, h.configurator r hne, h.descriptor]
      exact ⟨hcomponent, hpropagated, hpublication,
        fun hasks => (hregistered hasks).imp_right (h.registered _ _)⟩
  | caller r =>
      obtain ⟨hcomponent, htracked, hcallbacks, hregistered⟩ := hequips
      rw [Ensemble.Equips, h.caller r hne,
        Component.declaredCallbacks_congr (h.descriptor e.component) (h.methods e.component)]
      exact ⟨hcomponent, htracked, hcallbacks, fun hne => h.registered _ _ (hregistered hne)⟩
  | guest name number => trivial

theorem Ensemble.Equips.of_outfits {e : Ensemble} (hequips : e.Equips w handler)
    (h : Outfits view (.guest "" 0) w w') : e.Equips w' handler := by
  cases handler with
  | guest name number => trivial
  | _ => exact hequips.of_configures (.of_outfits h) (by simp)

section Configuring

variable {out : Collaborators σ} (hlog : ∀ record t, view (out.log record t) = view t)
include hlog

/-- A handler that is attached is registered, and nothing else happens. -/
theorem ensures_attach (r : Ref .component) (handler : Handler) (fields : List String)
    (w : World σ) :
    (Component.attach out r handler fields).Ensures w fun _ w' =>
      Configures view handler w w' ∧ handler ∈ (w'.component r).handlers ∧
        (∀ field ∈ fields, handler ∈ (w'.component r).interested field) ∧
        w'.service = w.service ∧ w'.nextService = w.nextService ∧ w'.provider = w.provider ∧
        w'.configurator = w.configurator ∧ w'.caller = w.caller := by
  let f (c : Component) : Component :=
    { c with attachments := Attachment.register handler fields c.attachments }
  have hmem : ∀ (c : Component) other, other ∈ (f c).handlers ↔ other = handler ∨ other ∈ c.handlers :=
    fun c other => Attachment.mem_handlers_register handler other fields c.attachments
  have hattached : ∀ g : σ → σ, view (g w.surroundings) = view w.surroundings →
      Configures view handler w ((w.changeSurroundings g).changeComponent r f) := by
    intro g hg
    have hsame := fun {β : Type} (field : Component → β) (hfield : ∀ c, field (f c) = field c) =>
      (w.changeSurroundings g).component_changeComponent_same field hfield r
    exact
      { (.of_outfits (.refl w) : Configures view handler w w) with
        surroundings := hg
        descriptor := hsame Component.descriptor fun _ => rfl
        methods := hsame Component.methods fun _ => rfl
        owned := hsame Component.owned fun _ => rfl
        state := hsame Component.state fun _ => rfl
        handlers := fun s other hother => by
          rw [World.component_changeComponent] at hother
          split at hother
          next heq => exact heq ▸ (hmem _ other).mp hother
          next => exact .inr hother
        registered := fun s other hother => by
          rw [World.component_changeComponent]
          split
          next heq => exact (hmem _ other).mpr (.inr (heq ▸ hother))
          next => exact hother
        interested := fun s other field hother => by
          rw [World.component_changeComponent]
          split
          next heq =>
            rw [Component.mem_interested] at hother ⊢
            exact Attachment.exists_register_iff.mpr (.inr (heq ▸ hother))
          next => exact hother
        ahead := fun s => by
          rw [World.component_changeComponent]
          split
          next heq =>
            rw [heq]
            exact Attachment.handlers_register_ahead handler fields _
          next => exact List.prefix_rfl
        distinct := fun s hdistinct => by
          rw [World.component_changeComponent]
          split
          next heq => exact Attachment.nodup_handlers_register handler fields (heq ▸ hdistinct)
          next => exact hdistinct }
  have hregistered : ∀ u : World σ, handler ∈ ((u.changeComponent r f).component r).handlers := by
    intro u
    rw [World.component_changeComponent, if_pos rfl]
    exact (hmem _ handler).mpr (.inl rfl)
  have hinterested : ∀ u : World σ, ∀ field ∈ fields,
      handler ∈ ((u.changeComponent r f).component r).interested field := by
    intro u field hfield
    rw [World.component_changeComponent, if_pos rfl, Component.mem_interested]
    exact Attachment.exists_register_iff.mpr (.inl ⟨rfl, hfield⟩)
  simp only [Component.attach, Run.ensures_bind, Run.ensures_component]
  -- A handler that is new is noted; it is attached in either case.
  split
  · rw [Run.ensures_bind, Run.ensures_note, Run.ensures_changeComponent]
    exact ⟨hattached _ (hlog _ _), hregistered _, hinterested _, rfl, rfl, rfl, rfl, rfl⟩
  · rw [Run.ensures_changeComponent]
    exact ⟨hattached id rfl, hregistered _, hinterested w, rfl, rfl, rfl, rfl, rfl⟩

theorem ensures_provider_configure (e : Ensemble) (r : Ref .provider)
    (descriptor : ComponentDescriptor) (configuration : Properties) (w : World σ) :
    (Provider.configure out r e.component descriptor configuration).Ensures w fun _ w' =>
      Configures view (.provider r) w w' ∧ e.Equips w' (.provider r) := by
  simp only [Provider.configure, Run.ensures_bind, Run.ensures_changeProvider]
  refine (ensures_offerAll hlog (.provider r) _ _ _ _ _).mono ?_
  rintro services u ⟨houtfits, hdistinct, hservices⟩
  have hbefore : Configures view (.provider r) w u :=
    (Configures.changeProvider r _).trans (.of_outfits houtfits)
  have hprovider : u.provider r = ⟨some e.component, []⟩ := by
    rw [houtfits.provider]
    simp
  split
  · refine (Run.ensures_pure _).mpr ⟨hbefore, ?_⟩
    simp [Ensemble.Equips, hprovider]
  · simp only [Run.ensures_bind, Run.ensures_mapM_service, Run.ensures_changeProvider]
    refine (outfitting_note hlog (.provider r) _ u trivial).mono ?_
    intro _ v hnoted
    have hquiet := (hnoted trivial).2
    refine (ensures_attach hlog e.component (.provider r) _ _).mono ?_
    rintro _ w' ⟨hattached, hmem, hinterested, hservice, hnext, hholder, -, -⟩
    have hstored : w'.provider r = ⟨some e.component, services⟩ := by
      rw [hholder]
      simp [hquiet.provider, hprovider]
    refine ⟨hbefore.trans (.trans (.of_outfits hquiet) (.trans (.changeProvider r _) hattached)), ?_⟩
    have hkept : ∀ s ∈ services, v.service s = u.service s := fun s hs =>
      hquiet.service s (hservices s hs).2.1
    rw [Ensemble.Equips, hstored]
    refine ⟨rfl, hdistinct, fun s hs => ?_, fun _ => hmem, ?_⟩
    · obtain ⟨-, hindex, hfresh⟩ := hservices s hs
      rw [hservice, hnext]
      refine ⟨Nat.lt_of_lt_of_le hindex hquiet.next, ?_⟩
      show (v.service s).Fresh
      rw [hkept s hs]
      exact hfresh
    · intro s hs property hproperty field hfield
      have hproperty : property ∈ (u.service s).properties := by
        rw [← hkept s hs]
        exact hservice ▸ hproperty
      apply hinterested
      refine List.mem_flatMap.mpr ⟨u.service s, List.mem_map_of_mem hs, ?_⟩
      refine List.mem_filterMap.mpr ⟨property.declared, ?_, hfield⟩
      rw [← (hservices s hs).2.2.described]
      exact List.mem_map_of_mem hproperty

theorem ensures_caller_configure (e : Ensemble) (r : Ref .caller) (w : World σ) :
    (Caller.configure out r e.component (w.component e.component).descriptor).Ensures w
      fun _ w' => Configures view (.caller r) w w' ∧ e.Equips w' (.caller r) := by
  simp only [Caller.configure, Run.ensures_bind, Run.ensures_component]
  refine (outfitting_noteAll hlog (.caller r) _ w trivial).mono ?_
  intro _ u hnoted
  rw [Run.ensures_changeCaller]
  have hread : Configures view (.caller r) w u := .of_outfits (hnoted trivial).2
  have hbefore := hread.trans (.changeCaller r fun _ =>
    ⟨some e.component, (w.component e.component).declaredCallbacks, .invalid⟩)
  -- What is declared is the same in the end, since configuring changes no description.
  have hequips : ∀ {v}, Configures view (.caller r) w v →
      v.caller r = ⟨some e.component, (w.component e.component).declaredCallbacks, .invalid⟩ →
      ((w.component e.component).declaredCallbacks ≠ [] →
        .caller r ∈ (v.component e.component).handlers) → e.Equips v (.caller r) := by
    intro v hconfigures hcaller hregistered
    rw [Ensemble.Equips, hcaller, Component.declaredCallbacks_congr
      (hconfigures.descriptor e.component) (hconfigures.methods e.component)]
    exact ⟨rfl, rfl, rfl, hregistered⟩
  split
  next hnone =>
    refine (Run.ensures_pure _).mpr ⟨hbefore, hequips hbefore (by simp [Component.declaredCallbacks,
      Component.className]) fun hsome => ?_⟩
    exact absurd (List.isEmpty_iff.mp hnone) hsome
  next =>
    rw [Run.ensures_bind]
    refine (ensures_attach hlog e.component (.caller r) _ _).mono ?_
    rintro _ v ⟨hattached, hmem, -, -, -, -, -, hcaller⟩
    rw [Run.ensures_note]
    have hend := hbefore.trans hattached
    have hequipped : e.Equips v (.caller r) := by
      apply hequips hend ?_ fun _ => hmem
      rw [hcaller]
      simp [Component.declaredCallbacks, Component.className]
    exact ⟨hend.trans (.of_outfits (outfits_note hlog _ v)),
      hequipped.of_outfits (outfits_note hlog _ v)⟩

/-- A property that is bound is added, if its element has a name or a field. -/
theorem ensures_bindProperty (r : Ref .configurator) (component : Ref .component)
    (descriptor : ComponentDescriptor) (configuration : Properties) (element : Element)
    (w : World σ) :
    (Configurator.bindProperty out r component descriptor configuration element).Ensures w
      fun _ w' => Outfits view (.configurator r) w w' ∧
        (((element.attribute? "name").or (element.attribute? "field")).isSome = true →
          (w'.configurator r).properties ≠ []) ∧
        ((w.configurator r).properties ≠ [] → (w'.configurator r).properties ≠ []) := by
  simp only [Configurator.bindProperty]
  split
  next hunnamed =>
    rw [Run.ensures_note]
    exact ⟨outfits_note hlog _ w, by simp [hunnamed], id⟩
  next =>
    simp only [Component.changeSurface, Run.ensures_bind]
    refine (outfitting_noteAll hlog (.configurator r) _ w trivial).mono ?_
    intro _ u hnoted
    rw [Run.ensures_changeComponent, Run.ensures_addProperty, Run.ensures_changeConfigurator]
    refine ⟨(hnoted trivial).2.trans (.trans (.changeComponent component ?_ ?_ ?_ ?_ ?_)
      (.trans (.addProperty _) (.changeConfigurator r ?_ ?_ ?_))), by simp, by simp⟩
    iterate 8 exact fun _ => rfl

omit hlog in
theorem outfitting_injectTyped (handler : Handler) (configuration : Properties)
    (r : Ref .property) :
    (outfitting view handler).Keeps (Configurator.injectTyped configuration r : Run σ Unit) := by
  intro w _
  simp only [Configurator.injectTyped, Run.ensures_bind, Run.ensures_property]
  split
  · rw [Run.ensures_setProperty]
    exact fun _ => ⟨trivial, .setProperty r _⟩
  · exact (Run.ensures_pure _).mpr (.refl w)

theorem ensures_configurator_configure (e : Ensemble) (r : Ref .configurator)
    (configuration : Properties) (w : World σ) :
    (Configurator.configure out r e.component (w.component e.component).descriptor
      configuration).Ensures w fun _ w' =>
        Configures view (.configurator r) w w' ∧ e.Equips w' (.configurator r) := by
  have hreset : Configures view (.configurator r) w
      (w.changeConfigurator r fun _ => Configurator.reset e.component) := .changeConfigurator r _
  -- A configurator that reads a description stays as it was reset but for what it reads.
  have hequips : ∀ {u v : World σ}, Outfits view (.configurator r)
      (w.changeConfigurator r fun _ => Configurator.reset e.component) u →
      v.configurator r = u.configurator r →
      (v.component e.component).descriptor = (u.component e.component).descriptor →
      ((w.component e.component).descriptor.IsConfigurable →
        (u.configurator r).configurable = true ∧
          .configurator r ∈ (v.component e.component).handlers) →
      e.Equips v (.configurator r) := by
    intro u v houtfits hconfigurator hdescriptor hasked
    rw [Ensemble.Equips, hconfigurator, hdescriptor, houtfits.boundTo, houtfits.propagated,
      houtfits.publication, houtfits.descriptor]
    simpa [Configurator.reset] using hasked
  simp only [Configurator.configure, Run.ensures_bind, Run.ensures_changeConfigurator]
  -- Only a configurator that comes to hold a property is attached.
  split
  next hnone =>
    refine (Run.ensures_pure _).mpr ⟨hreset, hequips (.refl _) rfl rfl ?_⟩
    rintro ⟨declaration, hfound, -⟩
    cases hnone.symm.trans hfound
  next declaration hfound =>
    rw [Run.ensures_bind]
    have hbind : ((declaration.childrenNamed "Property").forM
        (Configurator.bindProperty out r e.component (w.component e.component).descriptor
          configuration)).Ensures (w.changeConfigurator r fun _ => Configurator.reset e.component)
        fun _ u => Outfits view (.configurator r)
            (w.changeConfigurator r fun _ => Configurator.reset e.component) u ∧
          ∀ property ∈ declaration.childrenNamed "Property",
            ((property.attribute? "name").or (property.attribute? "field")).isSome = true →
              (u.configurator r).properties ≠ [] := by
      apply Run.ensures_forM_reached
      · intro element _ u houtfits
        refine (ensures_bindProperty hlog r _ _ _ element u).mono ?_
        rintro _ v ⟨hbound, hadded, hkept⟩
        exact ⟨houtfits.trans hbound, hadded, fun other _ hbefore hnamed => hkept (hbefore hnamed)⟩
      · exact .refl _
    refine hbind.mono ?_
    rintro _ u ⟨hbound, hadded⟩
    simp only [Run.ensures_bind, Run.ensures_platform, Run.ensures_changeConfigurator,
      Run.ensures_configurator]
    have hnamed := hbound.trans (.changeConfigurator r
      (f := fun c => { c with
        identity := Configurator.identityOf u.platform.settings (w.component e.component).descriptor
          configuration
        configurable := Configurator.isConfigurable declaration })
      (fun _ => rfl) (fun _ => rfl) fun _ => rfl)
    split
    next hnone =>
      refine (Run.ensures_pure _).mpr ⟨hreset.trans (.of_outfits hnamed), hequips hnamed rfl rfl ?_⟩
      rintro ⟨_, hfound', -, property, hmem, hproperty⟩
      cases hfound.symm.trans hfound'
      simp only [World.configurator_changeConfigurator, if_true, List.isEmpty_iff] at hnone
      exact absurd hnone (hadded property hmem hproperty)
    next =>
      rw [Run.ensures_bind]
      refine (Regime.Keeps.forM (R := outfitting view (.guest "" 0)) (fun property _ =>
        outfitting_injectTyped _ configuration property) _ trivial).mono ?_
      intro _ v hinjected
      have hinjected := (hinjected trivial).2
      have houtfits := hnamed.trans hinjected.of_guest
      rw [Run.ensures_bind, Run.ensures_mapM_property, Run.ensures_bind]
      refine (ensures_attach hlog e.component (.configurator r) _ v).mono ?_
      rintro _ x ⟨hattached, hmem, -, -, -, -, hconfigurator, -⟩
      rw [Run.ensures_note]
      have hequipped : e.Equips x (.configurator r) := by
        apply hequips houtfits (by rw [hconfigurator]) (hattached.descriptor _)
        rintro ⟨_, hfound', hflag, -⟩
        cases hfound.symm.trans hfound'
        rw [hinjected.configurator r (by simp)]
        exact ⟨by simpa using hflag, hmem⟩
      exact ⟨hreset.trans (.trans (.of_outfits houtfits) (hattached.trans
        (.of_outfits (outfits_note hlog _ x)))), hequipped.of_outfits (outfits_note hlog _ x)⟩

/-- Configuring a handler of the library equips it. -/
theorem ensures_handler_configure {e : Ensemble} {handler : Handler}
    (hhandler : handler ∈ e.handlers) (configuration : Properties) (w : World σ) :
    (handler.configure out e.component (w.component e.component).descriptor
      configuration).Ensures w fun _ w' => Configures view handler w w' ∧ e.Equips w' handler := by
  rcases Ensemble.mem_handlers.mp hhandler with rfl | rfl | rfl
  · exact ensures_provider_configure hlog e _ _ configuration w
  · exact ensures_configurator_configure hlog e _ configuration w
  · exact ensures_caller_configure hlog e _ w

end Configuring

/-! ## The ensemble -/

/-- What is known of an ensemble when its component has been configured. -/
structure Ensemble.New (e : Ensemble) (w : World σ) : Prop where
  stands : e.Stands w
  distinct : e.services.Nodup
  separate : (w.component e.component).handlers.Nodup
  invalid : (w.component e.component).state = .invalid
  fresh : ∀ s ∈ e.services, (w.service s).Fresh
  propagated : (w.configurator e.configurator).propagated = .empty
  unpublished : (w.configurator e.configurator).publication = none
  configurable : (w.component e.component).descriptor.IsConfigurable →
    (w.configurator e.configurator).configurable = true ∧
      .configurator e.configurator ∈ (w.component e.component).handlers
  tracked : (w.caller e.caller).tracked = .invalid
  callbacks : (w.caller e.caller).callbacks = (w.component e.component).declaredCallbacks
  called : (w.component e.component).declaredCallbacks ≠ [] →
    .caller e.caller ∈ (w.component e.component).handlers

/-- The registry holds only the records of others as long as all services are new. -/
theorem Kept.of_fresh {books : σ → Books} {e : Ensemble} {others : List ServiceRecord}
    (hdistinct : e.services.Nodup) (hfresh : ∀ s ∈ e.services, (w.service s).Fresh)
    (hothers : (books w.surroundings).registry.Holds others) : Kept books others e w := by
  refine ⟨hdistinct, fun s hs => (hfresh s hs).specified, fun _ => ?_⟩
  rw [Ensemble.records_of_unregistered fun s hs => (hfresh s hs).unregistered]
  exact hothers

/-- The registry is sound for a new ensemble: it holds only the records of others. -/
theorem Ensemble.New.sound {books : σ → Books} {e : Ensemble} {others : List ServiceRecord}
    (hnew : e.New w) (hothers : (books w.surroundings).registry.Holds others) :
    Sound books others e w :=
  ⟨.of_fresh hnew.distinct hnew.fresh hothers, hnew.stands⟩

/-- What the configuration of every handler leaves, whichever comes next: the component is
as it was described and invalid, and has no handlers but those of the ensemble. -/
structure Ensemble.Starts (e : Ensemble) (view : σ → τ) (w w' : World σ) : Prop where
  descriptor : (w'.component e.component).descriptor = (w.component e.component).descriptor
  owned : (w'.component e.component).owned = true
  invalid : (w'.component e.component).state = .invalid
  handlers : ∀ handler ∈ (w'.component e.component).handlers, handler ∈ e.handlers
  separate : (w'.component e.component).handlers.Nodup
  seen : view w'.surroundings = view w.surroundings

theorem Ensemble.Starts.of_configures {e : Ensemble} {u v : World σ}
    (hstarts : e.Starts view u v) (hhandler : handler ∈ e.handlers)
    (h : Configures view handler v w) : e.Starts view u w := by
  constructor
  · rw [h.descriptor, hstarts.descriptor]
  · rw [h.owned, hstarts.owned]
  · rw [h.state, hstarts.invalid]
  · intro other hother
    rcases h.handlers _ other hother with rfl | hbefore
    · exact hhandler
    · exact hstarts.handlers other hbefore
  · exact h.distinct _ hstarts.separate
  · rw [h.surroundings, hstarts.seen]

/-- What handlers hold stays unless they are candidates. -/
structure Passes (candidates : List Handler) (w w' : World σ) : Prop where
  provider : ∀ r, .provider r ∉ candidates → w'.provider r = w.provider r
  configurator : ∀ r, .configurator r ∉ candidates → w'.configurator r = w.configurator r

theorem Passes.of_configures {u v : World σ} {candidates : List Handler}
    (hpasses : Passes candidates u v) (hmem : handler ∈ candidates)
    (h : Configures view handler v w) : Passes candidates u w where
  provider r hr := by
    rw [h.provider r fun heq => hr (heq ▸ hmem), hpasses.provider r hr]
  configurator r hr := by
    rw [h.configurator r fun heq => hr (heq ▸ hmem), hpasses.configurator r hr]

theorem Passes.of_outfits {u v : World σ} {candidates : List Handler}
    (hpasses : Passes candidates u v) (h : Outfits view (.guest "" 0) v w) :
    Passes candidates u w where
  provider r hr := by rw [h.provider, hpasses.provider r hr]
  configurator r hr := by rw [h.configurator r (by simp), hpasses.configurator r hr]

/-- A component that was just created is configured with handlers of the ensemble, one
after the other. None of them takes away what another one has come to hold. -/
theorem ensures_component_configure {e : Ensemble} {out : Collaborators σ}
    {descriptor : ComponentDescriptor} {methods : Methods} {candidates : List Handler}
    (hlog : ∀ record t, view (out.log record t) = view t)
    (hcreated : w.component e.component = Component.create descriptor methods)
    (hcandidates : ∀ handler ∈ candidates, handler ∈ e.handlers) (configuration : Properties) :
    (Component.configure out e.component candidates configuration).Ensures w fun _ w' =>
      e.Starts view w w' ∧ Passes candidates w w' ∧ ∀ handler ∈ candidates, e.Equips w' handler := by
  have hstarts : e.Starts view w (w.hold e.component) := by
    constructor <;> simp [World.hold, hcreated, Component.create, Component.handlers]
  have hpasses : Passes candidates w (w.hold e.component) := ⟨fun _ _ => rfl, fun _ _ => rfl⟩
  simp only [Component.configure, Run.ensures_holding, Run.ensures_bind, Run.ensures_component,
    hstarts.descriptor]
  refine (Run.ensures_forM_reached (fun u => e.Starts view w u ∧ Passes candidates w u)
    (fun handler u => e.Equips u handler) ?_ ⟨hstarts, hpasses⟩).mono ?_
  · rintro handler hmem u ⟨hu, hpassed⟩
    have hhandler := hcandidates handler hmem
    rw [← hu.descriptor]
    refine (ensures_handler_configure hlog hhandler configuration u).mono ?_
    rintro _ v ⟨hconfigures, hequips⟩
    refine ⟨⟨hu.of_configures hhandler hconfigures, hpassed.of_configures hmem hconfigures⟩, hequips,
      fun other _ hbefore => ?_⟩
    by_cases heq : other = handler
    · exact heq ▸ hequips
    · exact hbefore.of_configures hconfigures heq
  · rintro _ u ⟨⟨hu, hpassed⟩, hequips⟩
    refine (outfitting_note hlog (.guest "" 0) _ u trivial).mono ?_
    intro _ v hnoted
    have houtfits : Outfits view (.guest "" 0) u (v.release e.component) :=
      (hnoted trivial).2.trans (.changeComponent _ (fun _ => rfl) (fun _ => rfl) (fun _ => rfl)
        (fun _ => rfl) fun _ => rfl)
    exact ⟨hu.of_configures List.mem_cons_self (.of_outfits houtfits.of_guest),
      hpassed.of_outfits houtfits, fun handler hmem => (hequips handler hmem).of_outfits houtfits⟩

/-- A component that is configured once with the three handlers, in whatever order, makes
a new ensemble, and nothing is registered or announced. -/
theorem Ensemble.Assembled.new {e : Ensemble} {out : Collaborators σ}
    (hlog : ∀ record t, view (out.log record t) = view t) (h : e.Assembled out w w') :
    e.New w' ∧ view w'.surroundings = view w.surroundings := by
  obtain ⟨⟨descriptor, methods, hcreated⟩, ⟨candidates, configuration, hperm, hrun⟩, hservices,
    hproperties⟩ := h
  have hcandidates : ∀ handler ∈ candidates, handler ∈ e.handlers :=
    fun handler hmem => hperm.mem_iff.mp hmem
  obtain ⟨hstarts, -, hequips⟩ :=
    ensures_component_configure hlog hcreated hcandidates configuration () w' hrun
  obtain ⟨hholder, hdistinct, hfresh, hregistered, -⟩ :=
    hequips (.provider e.provider) (hperm.mem_iff.mpr (by simp [Ensemble.handlers]))
  obtain ⟨hbound, hpropagated, hpublication, hconfigurable⟩ :=
    hequips (.configurator e.configurator) (hperm.mem_iff.mpr (by simp [Ensemble.handlers]))
  obtain ⟨hcaller, htracked, hcallbacks, hcalled⟩ :=
    hequips (.caller e.caller) (hperm.mem_iff.mpr (by simp [Ensemble.handlers]))
  rw [hservices] at hdistinct hfresh hregistered
  rw [hcallbacks] at hcalled
  have hprovider : w'.provider e.provider = ⟨some e.component, e.services⟩ := by
    rw [← hholder, ← hservices]
  exact ⟨⟨⟨hstarts.owned, hstarts.handlers, hprovider, hregistered, hbound, hproperties, hcaller⟩,
    hdistinct, hstarts.separate, hstarts.invalid, fun s hs => (hfresh s hs).2, hpropagated,
    hpublication, hconfigurable, htracked, hcallbacks, hcalled⟩, hstarts.seen⟩

/-! ## Some of the handlers -/

/-- A component is created and then configured with handlers of the ensemble, any of them and in
whatever order. The handlers are new, and the provider comes to hold the services. -/
structure Ensemble.Employed (e : Ensemble) (out : Collaborators σ) (candidates : List Handler)
    (w w' : World σ) : Prop where
  created : ∃ descriptor methods,
    w.component e.component = Component.create descriptor methods
  provider : w.provider e.provider = .unbound
  configurator : w.configurator e.configurator = .unbound
  handlers : ∀ handler ∈ candidates, handler ∈ e.handlers
  configured : ∃ configuration,
    (Component.configure out e.component candidates configuration).run w = some ((), w')
  services : (w'.provider e.provider).services = e.services

namespace Ensemble.Employed

variable {e : Ensemble} {out : Collaborators σ} {candidates : List Handler}

theorem starts (h : e.Employed out candidates w w')
    (hlog : ∀ record t, view (out.log record t) = view t) :
    e.Starts view w w' ∧ Passes candidates w w' ∧ ∀ handler ∈ candidates, e.Equips w' handler := by
  obtain ⟨descriptor, methods, hcreated⟩ := h.created
  obtain ⟨configuration, hrun⟩ := h.configured
  exact ensures_component_configure hlog hcreated h.handlers configuration () w' hrun

theorem equips (h : e.Employed out candidates w w') {handler : Handler}
    (hmem : handler ∈ candidates) : e.Equips w' handler := by
  let view : σ → Unit := fun _ => ()
  have hlog : ∀ record t, view (out.log record t) = view t := fun _ _ => rfl
  obtain ⟨-, -, hequips⟩ := h.starts hlog
  exact hequips handler hmem

/-- A provider that holds services is one of the candidates. -/
theorem mem_candidates (h : e.Employed out candidates w w') (hservices : e.services ≠ []) :
    .provider e.provider ∈ candidates := by
  let view : σ → Unit := fun _ => ()
  have hlog : ∀ record t, view (out.log record t) = view t := fun _ _ => rfl
  obtain ⟨-, hpasses, -⟩ := h.starts hlog
  apply Decidable.byContradiction
  intro hnot
  apply hservices
  rw [← h.services, hpasses.provider _ hnot, h.provider]
  rfl

/-- The component is staffed with what it was configured with. -/
theorem staffed (h : e.Employed out candidates w w') : e.Staffed w' := by
  let view : σ → Unit := fun _ => ()
  have hlog : ∀ record t, view (out.log record t) = view t := fun _ _ => rfl
  obtain ⟨hstarts, hpasses, hequips⟩ := h.starts hlog
  refine ⟨hstarts.handlers, h.services, fun hservices => ?_, fun r hr => ?_⟩
  · exact (hequips _ (h.mem_candidates hservices)).1
  · by_cases hmem : .configurator e.configurator ∈ candidates
    · exact (Option.some.inj ((hequips _ hmem).1.symm.trans hr)).symm
    · rw [hpasses.configurator _ hmem, h.configurator] at hr
      cases hr

/-- The services are new, and the provider is interested in the fields that back their
properties. -/
theorem fresh (h : e.Employed out candidates w w') :
    e.services.Nodup ∧ ∀ s ∈ e.services, (w'.service s).Fresh ∧
      ∀ property ∈ (w'.service s).properties, ∀ field ∈ property.declared.field,
        .provider e.provider ∈ (w'.component e.component).interested field := by
  cases hservices : e.services with
  | nil => exact ⟨.nil, fun _ hs => nomatch hs⟩
  | cons first rest =>
      have hmem := h.mem_candidates (by rw [hservices]; exact List.cons_ne_nil _ _)
      obtain ⟨-, hdistinct, hfresh, -, hinterested⟩ := h.equips hmem
      rw [h.services, hservices] at hdistinct hfresh hinterested
      exact ⟨hdistinct, fun s hs => ⟨(hfresh s hs).2, hinterested s hs⟩⟩

end Ensemble.Employed

/-! ## A clock -/

/-- A component with a configurable property, a service that shows a zone, and a callback
on becoming valid. -/
def Component.clock : Component :=
  .create
    (.build "Clock" [] ["Time"]
      [(Element.leaf "Provides").withChild
          (((Element.leaf "Property").withAttribute "name" "zone").withAttribute "value" "UTC"),
        (Element.leaf "Properties").withChild
          ((Element.leaf "Property").withAttribute "name" "rate"),
        ((Element.leaf "callback").withAttribute "final" "VALID").withAttribute "method" "tick"])
    (.ofList [("tick", ⟨"tick", false, false, 0⟩)])

/-- The clock on a platform of its own. -/
def World.clock (surroundings : σ) : World σ where
  platform :=
    { Platform.ofSettings .standard with components := (Store.empty.add Component.clock).2 }
  surroundings := surroundings

/-- The clock with its handlers, its service and its property. -/
def Ensemble.clock : Ensemble := ⟨⟨0⟩, ⟨0⟩, ⟨0⟩, ⟨0⟩, [⟨0⟩], [⟨0⟩]⟩

/-- The clock is assembled if its handlers come to hold its service and its property. -/
theorem Ensemble.assembled_clock {out : Collaborators σ} {t : σ} {w : World σ}
    {candidates : List Handler} {configuration : Properties}
    (hcandidates : candidates.Perm clock.handlers)
    (hconfigured : (Component.configure out ⟨0⟩ candidates configuration).run (.clock t) =
      some ((), w))
    (hservices : (w.provider ⟨0⟩).services = [⟨0⟩])
    (hproperties : (w.configurator ⟨0⟩).properties = [⟨0⟩]) :
    clock.Assembled out (.clock t) w :=
  ⟨⟨_, _, rfl⟩, ⟨candidates, configuration, hcandidates, hconfigured⟩, hservices, hproperties⟩

/-! ## A lamp -/

/-- A component whose service shows a field, with a configurable property for another field
and a callback on becoming valid. -/
def Component.lamp : Component :=
  .create
    (.build "Lamp" [("color", Value.textTypeName)] ["Light"]
      [(Element.leaf "Provides").withChild
          (((Element.leaf "Property").withAttribute "field" "color").withAttribute "value" "red"),
        ((Element.leaf "Properties").withAttribute "configurable" "true").withChild
          ((Element.leaf "Property").withAttribute "field" "level"),
        ((Element.leaf "callback").withAttribute "final" "VALID").withAttribute "method" "glow"])
    (.ofList [("glow", ⟨"glow", false, false, 0⟩)])

/-- The lamp on a platform of its own. -/
def World.lamp (surroundings : σ) : World σ where
  platform :=
    { Platform.ofSettings .standard with components := (Store.empty.add Component.lamp).2 }
  surroundings := surroundings

/-- The lamp with its handlers, its service and its property. -/
def Ensemble.lamp : Ensemble := ⟨⟨0⟩, ⟨0⟩, ⟨0⟩, ⟨0⟩, [⟨0⟩], [⟨0⟩]⟩

end Componentry

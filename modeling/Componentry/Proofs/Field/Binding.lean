import Componentry.Proofs.Ensemble.Assembly
import Componentry.Proofs.Service.Pushing

/-!
# How fields are bound to properties

A component that is configured with its handlers in their own order has them registered in
that order, and tells the configurator of every write and every read of a field that backs
one of its properties. No operation changes this, also if the registry, the host and methods
run operations while they are called, and whatever they answer.
-/

namespace Componentry

variable {σ : Type}

/-- Something happens that does not concern an ensemble, nor its properties: around the
platform, or to other components. -/
structure Elsewhere (e : Ensemble) (w w' : World σ) : Prop where
  component : w'.component e.component = w.component e.component
  provider : w'.provider e.provider = w.provider e.provider
  configurator : w'.configurator e.configurator = w.configurator e.configurator
  caller : w'.caller e.caller = w.caller e.caller
  property : ∀ r ∈ e.properties, w'.property r = w.property r

/-- Collaborators that may take turns whenever they are called. -/
structure Sociable (e : Ensemble) (callbacks : World σ → World σ → Prop) (out : Collaborators σ) :
    Prop where
  register : ∀ specifications properties factory w,
    (out.register specifications properties factory).Ensures w
      fun _ => Turn (Elsewhere e) callbacks w
  unregister : ∀ handle w,
    (out.unregister handle).Ensures w fun _ => Turn (Elsewhere e) callbacks w
  update : ∀ handle properties w,
    (out.update handle properties).Ensures w fun _ => Turn (Elsewhere e) callbacks w
  publish : ∀ identity properties target w,
    (out.publish identity properties target).Ensures w fun _ => Turn (Elsewhere e) callbacks w
  withdraw : ∀ handle w,
    (out.withdraw handle).Ensures w fun _ => Turn (Elsewhere e) callbacks w
  call : ∀ number component w,
    (out.call number component).Ensures w fun _ => Turn (Elsewhere e) callbacks w

/-- The ensemble stands, its handlers are registered in their own order, and the configurator
is interested in all fields that back its properties. -/
structure Ensemble.Wired (e : Ensemble) (w : World σ) : Prop where
  stands : e.Stands w
  inOrder : (w.component e.component).handlers.Sublist e.handlers
  interested : ∀ r ∈ e.properties, ∀ field ∈ (w.property r).field,
    .configurator e.configurator ∈ (w.component e.component).interested field

variable {e : Ensemble} {w w' : World σ}

theorem Ensemble.Wired.of_same (hw : e.Wired w) (hstands : e.Stands w')
    (hattachments : (w'.component e.component).attachments = (w.component e.component).attachments)
    (hfield : ∀ r ∈ e.properties, (w'.property r).field = (w.property r).field) : e.Wired w' where
  stands := hstands
  inOrder := by
    rw [Component.handlers, hattachments]
    exact hw.inOrder
  interested r hr field hmem := by
    rw [hfield r hr] at hmem
    rw [Component.interested, hattachments]
    exact hw.interested r hr field hmem

theorem Elsewhere.of_platform (hplatform : w'.platform = w.platform) : Elsewhere e w w' := by
  obtain ⟨hcomponent, -, hproperty, hprovider, hconfigurator, hcaller⟩ :=
    World.objects_of_platform hplatform
  constructor <;> simp [hcomponent, hproperty, hprovider, hconfigurator, hcaller]

theorem Idle.elsewhere {τ : Type} {view : σ → τ} (h : Idle view w w') : Elsewhere e w w' :=
  .of_platform h.1

theorem Elsewhere.wired (h : Elsewhere e w w') (hw : e.Wired w) : e.Wired w' := by
  obtain ⟨howned, hhandlers, hholder, hregistered, hbound, hproperties, hcalled⟩ := hw.stands
  have hstands : e.Stands w' := by
    constructor <;> simp only [h.component, h.provider, h.configurator, h.caller] <;> assumption
  apply hw.of_same hstands
  · rw [h.component]
  · intro r hr
    rw [h.property r hr]

/-! ## Operations -/

/-- A regime for a staffed component that does not depend on services, on states and on what is
published, and that bears what happens elsewhere. -/
structure Regime.Unmoved (R : Regime σ) (e : Ensemble) : Prop where
  staffed : ∀ {w}, R.holds w → e.Staffed w
  elsewhere : ∀ {w w'}, Elsewhere e w w' → R.Allows w w'
  slight : ∀ {w w'}, Slight w w' → R.Allows w w'
  setService : ∀ {w} s service, R.Allows w (w.setService s service)
  configurator : ∀ {w f}, (∀ c : Configurator, (f c).component = c.component) →
    (∀ c : Configurator, (f c).properties = c.properties) →
    R.Allows w (w.changeConfigurator e.configurator f)
  state : ∀ {w} state, R.Allows w (w.changeComponent e.component fun c => { c with state := state })
  tracked : ∀ {w} tracked, R.Allows w (w.changeCaller e.caller fun c => { c with tracked := tracked })

namespace Regime.Unmoved

variable {R : Regime σ} {callbacks : World σ → World σ → Prop} {out : Collaborators σ}
  (H : R.Unmoved e)
include H

theorem tolerates (out : Collaborators σ) : R.Tolerates e out where
  staffed := H.staffed
  slight := H.slight
  note _ _ _ := (Run.ensures_note out _).mpr (H.elsewhere (.of_platform rfl))

theorem allows_of_turn (hcallbacks : ∀ w w', callbacks w w' → R.Allows w w')
    (hturn : Turn (Elsewhere e) callbacks w w') : R.Allows w w' :=
  .of_turn (fun _ _ => H.elsewhere) hcallbacks hturn

/-- All parts of operations stay in such a regime, whatever the collaborators answer. -/
theorem tends (hcallbacks : ∀ w w', callbacks w w' → R.Allows w w')
    (hout : Sociable e callbacks out) : R.Tends e out := by
  have T : R.Tolerates e out := H.tolerates out
  have hturn : ∀ {w w'}, Turn (Elsewhere e) callbacks w w' → R.Allows w w' :=
    fun hturn => H.allows_of_turn hcallbacks hturn
  have htell : ∀ event, R.Keeps (out.tell event) :=
    fun _ _ _ => (Run.ensures_tell out _).mpr (H.elsewhere (.of_platform rfl))
  have hupdate : ∀ handle properties, R.Keeps (out.update handle properties) :=
    fun handle properties w _ => (hout.update handle properties w).mono fun _ _ => hturn
  have hpublication : ∀ publication, R.Keeps (Run.changeConfigurator e.configurator fun c =>
      { c with publication := publication }) :=
    fun _ _ _ => (Run.ensures_changeConfigurator _ _).mpr
      (H.configurator (fun _ => rfl) fun _ => rfl)
  have hwithdraw : ∀ handle, R.Keeps (out.withdraw handle) :=
    fun handle w _ => (hout.withdraw handle w).mono fun _ _ => hturn
  exact
    { T with
      state := fun state w _ => (Run.ensures_changeComponent _ _).mpr (H.state state)
      tracked := fun tracked w _ => (Run.ensures_changeCaller _ _).mpr (H.tracked tracked)
      tell := htell
      call := fun number component w _ => (hout.call number component w).mono fun _ _ => hturn
      publish := T.configurator_publish hpublication hwithdraw
        (fun identity properties target w _ =>
          (hout.publish identity properties target w).mono fun _ _ => hturn)
        fun _ _ => htell _
      withdraw := T.configurator_withdraw hpublication hwithdraw fun _ _ => htell _
      register := fun s _ => keeps_register hupdate
        (fun _ _ _ w _ => (hout.register _ _ _ w).mono fun _ _ => hturn)
        fun _ _ => H.setService s _
      unregister := fun s _ => keeps_unregister
        (fun handle w _ => (hout.unregister handle w).mono fun _ _ => hturn)
        fun _ => H.setService s _
      write := fun s _ => keeps_write hupdate fun _ _ _ => H.setService s _
      propagate := T.configurator_propagate
        (fun s _ => keeps_extend hupdate fun _ _ => H.setService s _)
        (fun s _ => keeps_reduce hupdate fun _ _ => H.setService s _)
        fun _ _ _ => (Run.ensures_changeConfigurator _ _).mpr
          (H.configurator (fun _ => rfl) fun _ => rfl) }

/-- Turns of operations stay in the regime, however deep they are nested. -/
theorem of_turn (hout : Layered e.Operates (Sociable e) out)
    (hturn : Turn (Elsewhere e) (e.Operates out) w w') : R.Allows w w' := by
  apply H.allows_of_turn ?_ hturn
  intro u v hoperates
  apply hout.operates_allowed _ hoperates
  intro callbacks out hcallbacks hrule
  exact (H.tends hcallbacks hrule).operation

end Regime.Unmoved

/-- The regime of worlds in which an ensemble is wired. -/
def wiring (e : Ensemble) : Regime σ where
  holds := e.Wired
  leads _ _ := True
  refl _ := trivial
  trans _ _ := trivial

theorem unmoved_wiring : (wiring (σ := σ) e).Unmoved e where
  staffed hw := hw.stands.staffed
  elsewhere h hw := ⟨h.wired hw, trivial⟩
  slight h hw :=
    ⟨hw.of_same (hw.stands.of_quiet h.quiet) (h.attachments _) fun r _ => h.propertyField r, trivial⟩
  setService _ _ hw := ⟨hw.of_same (hw.stands.of_setService rfl) rfl fun _ _ => rfl, trivial⟩
  configurator hcomponent hproperties hw :=
    ⟨hw.of_same (hw.stands.changeConfigurator hcomponent hproperties) rfl fun _ _ => rfl, trivial⟩
  state state := by
    intro hw
    have hstands := hw.stands.changeComponent (r := e.component)
      (f := fun c => { c with state := state }) (fun _ => rfl) fun _ => rfl
    refine ⟨hw.of_same hstands ?_ fun _ _ => rfl, trivial⟩
    simp
  tracked {w} tracked := by
    intro hw
    have hquiet : Quiet w (w.changeCaller e.caller fun c => { c with tracked := tracked }) :=
      .changeCaller w e.caller fun _ => rfl
    exact ⟨hw.of_same (hw.stands.of_quiet hquiet) rfl fun _ _ => rfl, trivial⟩

/-- An ensemble stays wired through all operations. -/
theorem Ensemble.Wired.of_turn {out : Collaborators σ} (hw : e.Wired w)
    (hout : Layered e.Operates (Sociable e) out) (hturn : Turn (Elsewhere e) (e.Operates out) w w') :
    e.Wired w' :=
  (unmoved_wiring.of_turn hout hturn hw).1

/-- The regime of worlds in which a component is staffed. -/
def staffing (e : Ensemble) : Regime σ where
  holds := e.Staffed
  leads _ _ := True
  refl _ := trivial
  trans _ _ := trivial

theorem unmoved_staffing : (staffing (σ := σ) e).Unmoved e where
  staffed hw := hw
  elsewhere h hw :=
    ⟨hw.of_same (by rw [h.component]) h.provider (by rw [h.configurator]), trivial⟩
  slight h hw :=
    ⟨hw.of_same (h.attachments _) (by rw [h.provider]) (by rw [h.configurator]), trivial⟩
  setService _ _ hw := ⟨hw.of_same rfl rfl rfl, trivial⟩
  configurator hcomponent _ hw := ⟨hw.of_same rfl rfl (by simp [hcomponent]), trivial⟩
  state _ hw := ⟨hw.of_same (by simp) rfl rfl, trivial⟩
  tracked _ hw := ⟨hw.of_same rfl rfl rfl, trivial⟩

/-- A component stays staffed through all operations. -/
theorem Ensemble.Staffed.of_turn {out : Collaborators σ} (hw : e.Staffed w)
    (hout : Layered e.Operates (Sociable e) out) (hturn : Turn (Elsewhere e) (e.Operates out) w w') :
    e.Staffed w' :=
  (unmoved_staffing.of_turn hout hturn hw).1

/-! ## Configuring -/

/-- The configurator is interested in all fields that back the properties that it holds. -/
def Intercepts (component : Ref .component) (r : Ref .configurator) (w : World σ) : Prop :=
  ∀ p ∈ (w.configurator r).properties, ∀ field ∈ (w.property p).field,
    .configurator r ∈ (w.component component).interested field

theorem Intercepts.of_platform {component : Ref .component} {r : Ref .configurator}
    (h : Intercepts component r w) (hplatform : w'.platform = w.platform) :
    Intercepts component r w' := by
  obtain ⟨hcomponent, -, hproperty, -, hconfigurator, -⟩ := World.objects_of_platform hplatform
  rw [Intercepts, hcomponent, hproperty, hconfigurator]
  exact h

theorem Intercepts.of_slight {component : Ref .component} {r : Ref .configurator}
    (h : Intercepts component r w) (hslight : Slight w w') : Intercepts component r w' := by
  intro p hp field hfield
  rw [hslight.configurator] at hp
  rw [hslight.propertyField] at hfield
  rw [Component.interested, hslight.attachments]
  exact h p hp field hfield

section Configuring

variable {out : Collaborators σ}

/-- A handler that is attached is interested in its fields, and no other interest changes. -/
theorem ensures_attach_interested (component : Ref .component) (handler : Handler)
    (fields : List String) (w : World σ) :
    (Component.attach out component handler fields).Ensures w fun _ w' =>
      w'.property = w.property ∧ w'.configurator = w.configurator ∧
        ∀ other field, other ∈ (w'.component component).interested field ↔
          (other = handler ∧ field ∈ fields) ∨ other ∈ (w.component component).interested field := by
  have hinterested : ∀ u : World σ, u.component = w.component → ∀ other field,
      other ∈ ((u.changeComponent component fun c =>
        { c with attachments := Attachment.register handler fields c.attachments }).component
          component).interested field ↔
        (other = handler ∧ field ∈ fields) ∨
          other ∈ (w.component component).interested field := by
    intro u hcomponent other field
    rw [World.component_changeComponent, if_pos rfl, hcomponent, Component.mem_interested,
      Component.mem_interested]
    exact Attachment.exists_register_iff
  simp only [Component.attach, Run.ensures_bind, Run.ensures_component]
  split
  · rw [Run.ensures_bind, Run.ensures_note, Run.ensures_changeComponent]
    exact ⟨rfl, rfl, hinterested _ rfl⟩
  · rw [Run.ensures_changeComponent]
    exact ⟨rfl, rfl, hinterested _ rfl⟩

/-- Typed values that are injected leave the fields of properties. -/
theorem ensures_injectTyped (configuration : Properties) (r : Ref .property) (w : World σ) :
    (Configurator.injectTyped configuration r).Ensures w fun _ w' =>
      w'.configurator = w.configurator ∧ ∀ p, (w'.property p).field = (w.property p).field := by
  simp only [Configurator.injectTyped, Run.ensures_bind, Run.ensures_property]
  split
  next value _ =>
    rw [Run.ensures_setProperty]
    refine ⟨rfl, fun p => ?_⟩
    rw [World.property_setProperty]
    split
    next heq => rw [ConfigurableProperty.field_assign, heq]
    next => rfl
  next => exact (Run.ensures_pure _).mpr ⟨rfl, fun _ => rfl⟩

theorem ensures_forM_injectTyped (configuration : Properties) (items : List (Ref .property))
    (w : World σ) :
    (items.forM (Configurator.injectTyped configuration)).Ensures w fun _ w' =>
      w'.configurator = w.configurator ∧ ∀ p, (w'.property p).field = (w.property p).field := by
  apply Run.ensures_forM (fun u : World σ =>
    u.configurator = w.configurator ∧ ∀ p, (u.property p).field = (w.property p).field)
  · intro r _ u hbefore
    obtain ⟨hconfigurator, hfield⟩ := hbefore
    refine (ensures_injectTyped configuration r u).mono ?_
    rintro _ v ⟨hconfigurator', hfield'⟩
    exact ⟨hconfigurator'.trans hconfigurator, fun p => (hfield' p).trans (hfield p)⟩
  · exact ⟨rfl, fun _ => rfl⟩

/-- A configurator that is configured is interested in the fields of its properties. -/
theorem ensures_configurator_intercepts (r : Ref .configurator) (component : Ref .component)
    (descriptor : ComponentDescriptor) (configuration : Properties) (w : World σ) :
    (Configurator.configure out r component descriptor configuration).Ensures w fun _ =>
      Intercepts component r := by
  have hnone : ∀ u : World σ, (u.configurator r).properties = [] → Intercepts component r u := by
    intro u hproperties p hp
    rw [hproperties] at hp
    cases hp
  simp only [Configurator.configure, Run.ensures_bind, Run.ensures_changeConfigurator]
  split
  next =>
    refine (Run.ensures_pure _).mpr (hnone _ ?_)
    simp [Configurator.reset]
  next declaration _ =>
    simp only [Run.ensures_bind, Run.ensures_platform, Run.ensures_changeConfigurator,
      Run.ensures_configurator]
    -- Which properties have been bound does not matter.
    intro _ u _
    generalize u.changeConfigurator r _ = v
    split
    next hempty => exact (Run.ensures_pure _).mpr (hnone v (List.isEmpty_iff.mp hempty))
    next =>
      rw [Run.ensures_bind]
      refine (ensures_forM_injectTyped configuration _ v).mono ?_
      rintro _ x ⟨hconfigurator, -⟩
      rw [Run.ensures_bind, Run.ensures_mapM_property, Run.ensures_bind]
      refine (ensures_attach_interested component (.configurator r) _ x).mono ?_
      rintro _ y ⟨hproperty, hconfigurator', hinterested⟩
      rw [Run.ensures_note]
      have hintercepts : Intercepts component r y := by
        intro p hp field hfield
        rw [hconfigurator', hconfigurator] at hp
        rw [hproperty] at hfield
        refine (hinterested _ field).mpr (.inl ⟨rfl, ?_⟩)
        exact List.mem_filterMap.mpr ⟨x.property p, List.mem_map_of_mem hp, hfield⟩
      exact hintercepts.of_platform rfl

/-- A caller that is configured leaves what the configurator is interested in. -/
theorem ensures_caller_intercepts {component : Ref .component} {r : Ref .configurator}
    (hw : Intercepts component r w) (s : Ref .caller) (descriptor : ComponentDescriptor) :
    (Caller.configure out s component descriptor).Ensures w fun _ => Intercepts component r := by
  simp only [Caller.configure, Run.ensures_bind, Run.ensures_component]
  refine (Run.ensures_noteAll out _).mono ?_
  intro _ u hplatform
  rw [Run.ensures_changeCaller]
  have hu : Intercepts component r u := hw.of_platform hplatform
  split
  · exact (Run.ensures_pure _).mpr hu
  · rw [Run.ensures_bind]
    refine (ensures_attach_interested component (.caller s) [] _).mono ?_
    rintro _ v ⟨hproperty, hconfigurator, hinterested⟩
    rw [Run.ensures_note]
    have hv : Intercepts component r v := by
      intro p hp field hfield
      rw [hconfigurator] at hp
      rw [hproperty] at hfield
      exact (hinterested _ field).mpr (.inr (hu p hp field hfield))
    exact hv.of_platform rfl

end Configuring

/-- A handler that is configured is registered behind the others, or not at all. -/
theorem Configures.exists_handlers {τ : Type} {view : σ → τ} {handler : Handler}
    (h : Configures view handler w w') {r : Ref .component}
    (hdistinct : (w.component r).handlers.Nodup) :
    ∃ added : List Handler, added.Sublist [handler] ∧
      (w'.component r).handlers = (w.component r).handlers ++ added := by
  obtain ⟨added, hadded⟩ := h.ahead r
  have hdistinct' := h.distinct r hdistinct
  rw [← hadded, List.nodup_append] at hdistinct'
  obtain ⟨-, hnodup, hdisjoint⟩ := hdistinct'
  have honly : ∀ other ∈ added, other = handler := by
    intro other hother
    rcases h.handlers r other (hadded ▸ List.mem_append_right _ hother) with heq | hbefore
    · exact heq
    · exact absurd rfl (hdisjoint other hbefore other hother)
  refine ⟨added, ?_, hadded.symm⟩
  cases added with
  | nil => exact List.nil_sublist _
  | cons first rest =>
      rw [List.forall_mem_cons] at honly
      obtain ⟨rfl, hrest⟩ := honly
      have hnil : rest = [] := by
        apply List.eq_nil_iff_forall_not_mem.mpr
        intro other hother
        exact (List.nodup_cons.mp hnodup).1 (hrest other hother ▸ hother)
      rw [hnil]

/-- A component is created and then configured with the handlers of the ensemble in their own
order, which come to hold its services and properties. -/
structure Ensemble.AssembledInOrder (e : Ensemble) (out : Collaborators σ) (w w' : World σ) :
    Prop where
  created : ∃ descriptor methods,
    w.component e.component = Component.create descriptor methods
  configured : ∃ configuration,
    (Component.configure out e.component e.handlers configuration).run w = some ((), w')
  services : (w'.provider e.provider).services = e.services
  properties : (w'.configurator e.configurator).properties = e.properties

theorem Ensemble.AssembledInOrder.assembled {out : Collaborators σ}
    (h : e.AssembledInOrder out w w') : e.Assembled out w w' where
  created := h.created
  configured := h.configured.imp' (fun _ => e.handlers) fun configuration hrun =>
    ⟨configuration, .refl _, hrun⟩
  services := h.services
  properties := h.properties

/-- A component that is configured with the handlers of an ensemble in their own order has them
registered in that order, and the configurator is interested in the fields of its properties. -/
theorem ensures_configure_inOrder {out : Collaborators σ}
    (hnone : (w.component e.component).handlers = []) (configuration : Properties) :
    (Component.configure out e.component e.handlers configuration).Ensures w fun _ w' =>
      (w'.component e.component).handlers.Sublist e.handlers ∧
        Intercepts e.component e.configurator w' := by
  let view : σ → Unit := fun _ => ()
  have hlog : ∀ record t, view (out.log record t) = view t := fun _ _ => rfl
  have hconfigure := fun handler (hmem : handler ∈ e.handlers) (u : World σ) =>
    ensures_handler_configure hlog hmem configuration u
  have hnone : ((w.hold e.component).component e.component).handlers = [] := by
    rw [Component.handlers, (Slight.hold w e.component).attachments]
    exact hnone
  have hdistinct := hnone ▸ List.nodup_nil
  simp only [Component.configure, Run.ensures_holding, Run.ensures_bind, Run.ensures_component,
    Ensemble.handlers, Run.ensures_forM_cons]
  refine (hconfigure (.provider e.provider) (by simp [Ensemble.handlers]) _).mono ?_
  rintro _ w₁ ⟨hprovider, -⟩
  obtain ⟨added₁, hadded₁, hhandlers₁⟩ := hprovider.exists_handlers hdistinct
  have hdistinct₁ := hprovider.distinct e.component hdistinct
  rw [← hprovider.descriptor]
  refine ((hconfigure (.configurator e.configurator) (by simp [Ensemble.handlers]) w₁).and
    (ensures_configurator_intercepts _ _ _ _ w₁)).mono ?_
  rintro _ w₂ ⟨⟨hconfigurator, -⟩, hintercepts⟩
  obtain ⟨added₂, hadded₂, hhandlers₂⟩ := hconfigurator.exists_handlers hdistinct₁
  have hdistinct₂ := hconfigurator.distinct e.component hdistinct₁
  rw [← hconfigurator.descriptor]
  refine ((hconfigure (.caller e.caller) (by simp [Ensemble.handlers]) w₂).and
    (ensures_caller_intercepts hintercepts _ _)).mono ?_
  rintro _ w₃ ⟨⟨hcaller, -⟩, hintercepts'⟩
  obtain ⟨added₃, hadded₃, hhandlers₃⟩ := hcaller.exists_handlers hdistinct₂
  refine (Run.ensures_pure _).mpr ?_
  rw [Run.ensures_note]
  -- What is left is to log and to let the component go.
  let u := w₃.changeSurroundings (out.log (Component.report .info "Component configured"
    (w₂.component e.component).descriptor.className
    [("handlers", .quotedList (w₃.component e.component).handlerNames)]))
  have hreleased : Slight u (u.release e.component) := .release u e.component
  have hends : ((u.release e.component).component e.component).handlers =
      added₁ ++ added₂ ++ added₃ := by
    rw [Component.handlers, hreleased.attachments]
    rw [hhandlers₂, hhandlers₁, hnone, List.nil_append] at hhandlers₃
    exact hhandlers₃
  have hu : Intercepts e.component e.configurator u := hintercepts'.of_platform rfl
  refine ⟨?_, hu.of_slight hreleased⟩
  rw [hends]
  exact (hadded₁.append hadded₂).append hadded₃

/-- An ensemble that is assembled in order is wired. -/
theorem Ensemble.AssembledInOrder.wired {out : Collaborators σ}
    (h : e.AssembledInOrder out w w') : e.Wired w' := by
  let view : σ → Unit := fun _ => ()
  have hlog : ∀ record t, view (out.log record t) = view t := fun _ _ => rfl
  obtain ⟨hnew, -⟩ := h.assembled.new hlog
  obtain ⟨⟨descriptor, methods, hcreated⟩, ⟨configuration, hrun⟩, -, hproperties⟩ := h
  have hnone : (w.component e.component).handlers = [] := by
    simp [hcreated, Component.create, Component.handlers]
  obtain ⟨hinOrder, hintercepts⟩ := ensures_configure_inOrder hnone configuration () w' hrun
  rw [Intercepts, hproperties] at hintercepts
  exact ⟨hnew.stands, hinOrder, hintercepts⟩

end Componentry

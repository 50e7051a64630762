import Componentry.Proofs.Callback.Tracking
import Componentry.Proofs.Handler.Order
import Componentry.Proofs.Property.Receiving

/-!
# Fields are written

A field that is written gives its value to the first property that it backs in each service of
an interested provider, and to all properties that it backs of an interested configurator. What
a service or a property has been given it does not take a second time, so it does not matter
how often handlers are told of a write, nor in which order. The registry may refuse to be told.

So a field reads as what was last written to it, whichever handlers a component has, and a write
moves nothing else: no other field, no property of another field, no propagated entry, no state,
no registration and no publication.
-/

namespace Componentry

variable {σ τ : Type}

/-! ## Services -/

namespace ServiceProperty

/-- The property after it has been given a value. -/
def assign (property : ServiceProperty) (value : Value) : ServiceProperty :=
  (property.assign? value).getD property

/-- Whether the property has a value already. -/
def holds (property : ServiceProperty) (value : Value) : Bool :=
  Value.sameOption property.value (some value)

variable {property : ServiceProperty} {value : Value}

theorem assign_eq : property.assign value =
    if property.holds value then property else { property with value := some value } := by
  rw [assign, assign?, holds]
  split <;> rfl

@[simp] theorem declared_assign : (property.assign value).declared = property.declared := by
  rw [assign_eq]
  split <;> rfl

@[simp] theorem holds_assign : (property.assign value).holds value = true := by
  rw [assign_eq]
  split
  next hholds => exact hholds
  next => exact Value.equal_refl value

/-- The field of a property backs it. -/
theorem isBackedBy_iff {field : String} :
    property.isBackedBy field = true ↔ property.declared.field = some field := by
  rw [isBackedBy, beq_iff_eq]

@[simp] theorem isBackedBy_assign {field : String} :
    (property.assign value).isBackedBy field = property.isBackedBy field := by
  rw [isBackedBy, declared_assign, isBackedBy]

end ServiceProperty

namespace Service

section Assigning

variable {field : String} {value : Value}

/-- Give a value to the first property that a field backs. -/
def assignFirst (field : String) (value : Value) : List ServiceProperty → List ServiceProperty
  | [] => []
  | property :: rest =>
      if property.isBackedBy field then property.assign value :: rest
      else property :: assignFirst field value rest

theorem assignFirst?_getD (properties : List ServiceProperty) :
    (assignFirst? field value properties).getD properties = assignFirst field value properties := by
  induction properties with
  | nil => rfl
  | cons property rest ih =>
      rw [assignFirst?, assignFirst]
      split
      · rw [ServiceProperty.assign]
        cases property.assign? value <;> rfl
      · rw [← ih]
        cases assignFirst? field value rest <;> rfl

/-- The first property that a field backs does not take the same value twice. -/
theorem assignFirst?_assignFirst (properties : List ServiceProperty) :
    assignFirst? field value (assignFirst field value properties) = none := by
  induction properties with
  | nil => rfl
  | cons property rest ih =>
      rw [assignFirst]
      split
      next hbacked =>
        have hholds : (property.assign value).holds value = true := ServiceProperty.holds_assign
        rw [ServiceProperty.holds] at hholds
        rw [assignFirst?, ServiceProperty.isBackedBy_assign, if_pos hbacked,
          ServiceProperty.assign?, if_pos hholds]
        rfl
      next hother => rw [assignFirst?, if_neg hother, ih, Option.map_none]

/-- Every property is declared as it was, and no property changes that another field backs, or
none. -/
theorem forall₂_assignFirst (properties : List ServiceProperty) :
    List.Forall₂ (fun before after => after.declared = before.declared ∧
        (before.declared.field ≠ some field → after = before))
      properties (assignFirst field value properties) := by
  induction properties with
  | nil => exact .nil
  | cons property rest ih =>
      rw [assignFirst]
      split
      next hbacked =>
        have hfield := ServiceProperty.isBackedBy_iff.mp hbacked
        refine .cons ⟨ServiceProperty.declared_assign, fun hother => absurd hfield hother⟩ ?_
        exact List.forall₂_same.mpr fun _ _ => ⟨rfl, fun _ => rfl⟩
      next => exact .cons ⟨rfl, fun _ => rfl⟩ ih

/-- The first property that another field backs is what it was. -/
theorem find?_assignFirst_of_ne {other : String} (hother : other ≠ field)
    (properties : List ServiceProperty) :
    (assignFirst field value properties).find? (·.isBackedBy other) =
      properties.find? (·.isBackedBy other) := by
  induction properties with
  | nil => rfl
  | cons property rest ih =>
      rw [assignFirst]
      split
      next hbacked =>
        have hnot : property.isBackedBy other = false := by
          rw [ServiceProperty.isBackedBy, ServiceProperty.isBackedBy_iff.mp hbacked]
          simpa using Ne.symm hother
        rw [List.find?_cons, ServiceProperty.isBackedBy_assign, hnot, List.find?_cons, hnot]
      next => rw [List.find?_cons, ih, List.find?_cons]

/-- The first property that the field backs has the value. -/
theorem holds_of_find?_assignFirst {properties : List ServiceProperty} {property : ServiceProperty}
    (hfound : (assignFirst field value properties).find? (·.isBackedBy field) = some property) :
    property.holds value = true := by
  induction properties with
  | nil => cases hfound
  | cons first rest ih =>
      rw [assignFirst] at hfound
      split at hfound
      next hbacked =>
        rw [List.find?_cons, ServiceProperty.isBackedBy_assign, hbacked] at hfound
        cases hfound
        exact ServiceProperty.holds_assign
      next hother =>
        rw [List.find?_cons, (Bool.not_eq_true _).mp hother] at hfound
        exact ih hfound

end Assigning

/-- The service after a field has been written. -/
def writtenTo (service : Service) (field : String) (value : Value) : Service :=
  (service.written? field value).getD service

variable (service : Service) {field : String} {value : Value}

theorem properties_writtenTo :
    (service.writtenTo field value).properties = assignFirst field value service.properties := by
  rw [← assignFirst?_getD, writtenTo, written?]
  cases assignFirst? field value service.properties <;> rfl

/-- A write changes nothing but properties, and what counts the changes. -/
theorem writtenTo_frame :
    (service.writtenTo field value).declared = service.declared ∧
      (service.writtenTo field value).extras = service.extras ∧
      (service.writtenTo field value).registration = service.registration := by
  rw [writtenTo]
  cases hwritten : service.written? field value with
  | none => exact ⟨rfl, rfl, rfl⟩
  | some changed =>
      obtain ⟨hrevised, hextras⟩ := written?_eq_some hwritten
      exact ⟨hrevised.declared, hextras, hrevised.registration⟩

/-- What is written twice changes a service once. -/
@[simp] theorem writtenTo_writtenTo :
    (service.writtenTo field value).writtenTo field value = service.writtenTo field value := by
  rw [writtenTo, written?, properties_writtenTo, assignFirst?_assignFirst]
  rfl

/-- A service that has no property of the field is not changed. -/
theorem writtenTo_of_not_hasField (hnot : service.hasField field = false) :
    service.writtenTo field value = service := by
  have hnone : ∀ properties : List ServiceProperty, properties.any (·.isBackedBy field) = false →
      assignFirst? field value properties = none := by
    intro properties hproperties
    induction properties with
    | nil => rfl
    | cons property rest ih =>
        rw [List.any_cons, Bool.or_eq_false_iff] at hproperties
        rw [assignFirst?, hproperties.1, if_neg Bool.false_ne_true, ih hproperties.2,
          Option.map_none]
  rw [writtenTo, written?, hnone _ hnot]
  rfl

/-- A service reads a field as what was written to it. -/
theorem field?_writtenTo {read : Value}
    (hread : (service.writtenTo field value).field? field = some read) :
    Value.sameOption (some read) (some value) = true := by
  rw [field?, properties_writtenTo] at hread
  obtain ⟨property, hfound, hvalue⟩ := Option.bind_eq_some_iff.mp hread
  have hholds := holds_of_find?_assignFirst hfound
  rw [ServiceProperty.holds, hvalue] at hholds
  exact hholds

/-- A service reads every other field as it did. -/
theorem field?_writtenTo_of_ne {other : String} (hother : other ≠ field) :
    (service.writtenTo field value).field? other = service.field? other := by
  rw [field?, properties_writtenTo, find?_assignFirst_of_ne hother, field?]

end Service

/-! ## Steps -/

/-- A step that gives a value to some services, and to those of some properties that a field
backs. What handlers hold stays, and what a view shows of the surroundings. -/
structure Writes (view : σ → τ) (field : String) (value : Value) (services : List (Ref .service))
    (properties : List (Ref .property)) (w w' : World σ) : Prop where
  service : ∀ s, w'.service s =
    if s ∈ services then (w.service s).writtenTo field value else w.service s
  property : ∀ r, w'.property r =
    if r ∈ properties ∧ (w.property r).field = some field then (w.property r).assign value
    else w.property r
  provider : w'.provider = w.provider
  configurator : w'.configurator = w.configurator
  caller : w'.caller = w.caller
  seen : view w'.surroundings = view w.surroundings

namespace Writes

variable {view : σ → τ} {field : String} {value : Value} {services services' : List (Ref .service)}
  {properties properties' : List (Ref .property)} {u v w w' : World σ}

theorem of_idle (hidle : Idle view w w') : Writes view field value [] [] w w' := by
  obtain ⟨-, hservice, hproperty, hprovider, hconfigurator, hcaller⟩ :=
    World.objects_of_platform hidle.1
  exact ⟨by simp [hservice], by simp [hproperty], hprovider, hconfigurator, hcaller, hidle.2⟩

theorem field_eq (h : Writes view field value services properties w w') (r : Ref .property) :
    (w'.property r).field = (w.property r).field := by
  rw [h.property]
  split <;> simp

theorem append (huv : Writes view field value services properties u v)
    (hvw : Writes view field value services' properties' v w) :
    Writes view field value (services ++ services') (properties ++ properties') u w where
  service s := by
    rw [hvw.service, huv.service]
    by_cases hfirst : s ∈ services <;> by_cases hsecond : s ∈ services' <;> simp [hfirst, hsecond]
  property r := by
    rw [hvw.property, huv.field_eq, huv.property]
    by_cases hbacked : (u.property r).field = some field
    · by_cases hfirst : r ∈ properties <;> by_cases hsecond : r ∈ properties' <;>
        simp [hbacked, hfirst, hsecond]
    · simp [hbacked]
  provider := hvw.provider.trans huv.provider
  configurator := hvw.configurator.trans huv.configurator
  caller := hvw.caller.trans huv.caller
  seen := hvw.seen.trans huv.seen

end Writes

section Writing

variable {view : σ → τ} {out : Collaborators σ} {field : String} {value : Value} {w : World σ}
  (hout : Placid view out)
include hout

theorem returns_write (s : Ref .service) :
    (Service.write out s field value).Returns w fun _ w' =>
      Writes view field value [s] [] w w' ∧ w'.component = w.component := by
  have hservice : ∀ changed, (w.service s).writtenTo field value = changed → ∀ t,
      (w.setService s changed).service t =
        if t ∈ [s] then (w.service t).writtenTo field value else w.service t := by
    rintro _ rfl t
    rw [World.service_setService]
    by_cases heq : t = s
    · simp [heq]
    · simp [heq]
  simp only [Service.write, Run.returns_bind, Run.returns_service]
  split
  next hsame =>
    have hself : (w.service s).writtenTo field value = w.service s := by
      rw [Service.writtenTo, hsame, Option.getD_none]
    refine (Run.returns_pure _).mpr ⟨⟨fun t => ?_, by simp, rfl, rfl, rfl, rfl⟩, rfl⟩
    by_cases heq : t = s
    · simp [heq, hself]
    · simp [heq]
  next changed hchanged =>
    have hwritten : (w.service s).writtenTo field value = changed := by
      rw [Service.writtenTo, hchanged, Option.getD_some]
    rw [Run.returns_bind]
    refine (returns_commit_placid hout s changed w).mono ?_
    intro answer u hidle
    obtain ⟨hcomponent, hservice', hproperty, hprovider, hconfigurator, hcaller⟩ :=
      World.objects_of_platform hidle.1
    refine (Run.returns_pure _).mpr
      ⟨⟨fun t => ?_, by simp [hproperty], hprovider, hconfigurator, hcaller, hidle.2⟩, hcomponent⟩
    rw [hservice', hservice changed hwritten]

theorem returns_writeService (className : String) (s : Ref .service) :
    (Provider.writeService out className field value s).Returns w fun _ w' =>
      Writes view field value [s] [] w w' ∧ w'.component = w.component := by
  simp only [Provider.writeService, Run.returns_bind, Run.returns_service]
  split
  next =>
    rw [Run.returns_bind]
    refine (returns_write hout s).mono ?_
    rintro answer u ⟨hwrites, hcomponent⟩
    split
    · exact (Run.returns_pure _).mpr ⟨hwrites, hcomponent⟩
    · rw [Collaborators.noteCaught, Run.returns_note]
      exact ⟨{ hwrites with seen := (hout.log _ _).trans hwrites.seen }, hcomponent⟩
  next hnot =>
    have hself : (w.service s).writtenTo field value = w.service s :=
      (w.service s).writtenTo_of_not_hasField ((Bool.not_eq_true _).mp hnot)
    refine (Run.returns_pure _).mpr ⟨⟨fun t => ?_, by simp, rfl, rfl, rfl, rfl⟩, rfl⟩
    by_cases heq : t = s
    · simp [heq, hself]
    · simp [heq]

theorem returns_writeServices (className : String) (services : List (Ref .service)) (w : World σ) :
    (services.forM (Provider.writeService out className field value)).Returns w fun _ w' =>
      Writes view field value services [] w w' ∧ w'.component = w.component := by
  induction services generalizing w with
  | nil => exact (Run.returns_pure ()).mpr ⟨.of_idle ⟨rfl, rfl⟩, rfl⟩
  | cons s rest ih =>
      rw [Run.returns_forM_cons]
      refine (returns_writeService hout className s).mono ?_
      rintro _ u ⟨hwrites, hcomponent⟩
      refine (ih u).mono ?_
      rintro _ v ⟨hrest, hcomponent'⟩
      exact ⟨hwrites.append hrest, hcomponent'.trans hcomponent⟩

/-- A provider writes to its services while its component is alive. -/
theorem returns_provider_fieldWritten {r : Ref .provider}
    (halive : (w.provider r).services ≠ [] →
      ∃ s, (w.provider r).component = some s ∧ (w.component s).isAlive = true) :
    (Provider.fieldWritten out r field value).Returns w fun _ w' =>
      Writes view field value (w.provider r).services [] w w' ∧ w'.component = w.component := by
  have hnone : (w.provider r).services = [] →
      Writes view field value (w.provider r).services [] w w := by
    intro hservices
    rw [hservices]
    exact .of_idle ⟨rfl, rfl⟩
  rw [Provider.fieldWritten, Run.returns_bind, Run.returns_provider]
  cases hcomponent : (w.provider r).component with
  | none =>
      refine (Run.returns_pure ()).mpr ⟨hnone ?_, rfl⟩
      apply Decidable.byContradiction
      intro hservices
      obtain ⟨s, hs, -⟩ := halive hservices
      cases hcomponent.symm.trans hs
  | some s =>
      simp only [Run.whileAlive, Run.returns_bind, Run.returns_component]
      split
      next =>
        simp only [Run.returns_holding, Run.returns_bind, Run.returns_component,
          Run.returns_provider]
        refine (returns_writeServices hout _ _ (w.hold s)).mono ?_
        rintro _ u ⟨hwrites, hheld⟩
        exact ⟨{ hwrites with }, World.component_release_of_hold hheld⟩
      next hdead =>
        refine (Run.returns_pure ()).mpr ⟨hnone ?_, rfl⟩
        apply Decidable.byContradiction
        intro hservices
        obtain ⟨s', hs', hs''⟩ := halive hservices
        cases hcomponent.symm.trans hs'
        exact hdead hs''

omit hout in
theorem returns_writeProperty (hlog : ∀ record t, view (out.log record t) = view t)
    (r : Ref .property) :
    (Configurator.writeProperty out field value r).Returns w fun _ w' =>
      Writes view field value [] [r] w w' ∧ w'.component = w.component := by
  have hkept : (w.property r).isBackedBy field = false ∨
      (w.property r).assign value = w.property r → Writes view field value [] [r] w w := by
    intro hsame
    refine ⟨by simp, fun s => ?_, rfl, rfl, rfl, rfl⟩
    split
    next hs =>
      obtain rfl := List.mem_singleton.mp hs.1
      rcases hsame with hnot | hself
      · rw [ConfigurableProperty.isBackedBy_iff.mpr hs.2] at hnot
        cases hnot
      · exact hself.symm
    next => rfl
  simp only [Configurator.writeProperty, Run.returns_bind, Run.returns_property]
  split
  next hbacked =>
    have hfield := ConfigurableProperty.isBackedBy_iff.mp hbacked
    split
    next hsame =>
      refine (Run.returns_pure _).mpr ⟨hkept (.inr ?_), rfl⟩
      rw [ConfigurableProperty.assign, hsame, Option.getD_none]
    next changed hchanged =>
      have hassign : (w.property r).assign value = changed := by
        rw [ConfigurableProperty.assign, hchanged, Option.getD_some]
      simp only [Run.returns_bind, Run.returns_setProperty, Run.returns_note]
      refine ⟨⟨by simp, fun s => ?_, rfl, rfl, rfl, hlog _ _⟩, rfl⟩
      by_cases heq : s = r
      · simp [heq, hfield, hassign]
      · simp [heq]
  next hother =>
    exact (Run.returns_pure _).mpr ⟨hkept (.inl ((Bool.not_eq_true _).mp hother)), rfl⟩

omit hout in
theorem returns_writeProperties (hlog : ∀ record t, view (out.log record t) = view t)
    (properties : List (Ref .property)) (w : World σ) :
    (properties.forM (Configurator.writeProperty out field value)).Returns w fun _ w' =>
      Writes view field value [] properties w w' ∧ w'.component = w.component := by
  induction properties generalizing w with
  | nil => exact (Run.returns_pure ()).mpr ⟨.of_idle ⟨rfl, rfl⟩, rfl⟩
  | cons r rest ih =>
      rw [Run.returns_forM_cons]
      refine (returns_writeProperty hlog r).mono ?_
      rintro _ u ⟨hwrites, hcomponent⟩
      refine (ih u).mono ?_
      rintro _ v ⟨hrest, hcomponent'⟩
      exact ⟨hwrites.append hrest, hcomponent'.trans hcomponent⟩

end Writing

/-! ## Handlers -/

/-- The services that a handler holds. -/
def World.servicesOf (w : World σ) : Handler → List (Ref .service)
  | .provider r => (w.provider r).services
  | _ => []

/-- The configurable properties that a handler holds. -/
def World.propertiesOf (w : World σ) : Handler → List (Ref .property)
  | .configurator r => (w.configurator r).properties
  | _ => []

theorem Ensemble.Staffed.mem_interested {e : Ensemble} {w : World σ} (hw : e.Staffed w)
    {field : String} {handler : Handler}
    (hhandler : handler ∈ (w.component e.component).interested field) : handler ∈ e.handlers :=
  hw.handlers handler ((List.filter_sublist.map Attachment.handler).subset hhandler)

section Handlers

variable {view : σ → τ} {out : Collaborators σ} {field : String} {value : Value} {e : Ensemble}
  {w : World σ} (hout : Placid view out)
include hout

/-- A handler of a component that is being held writes to all that it holds. -/
theorem returns_handler_fieldWritten {handler : Handler} (hw : e.Staffed w)
    (halive : (w.component e.component).isAlive = true) (hhandler : handler ∈ e.handlers) :
    (handler.fieldWritten out field value).Returns w fun _ w' =>
      Writes view field value (w.servicesOf handler) (w.propertiesOf handler) w w' ∧
        w'.component = w.component := by
  rcases Ensemble.mem_handlers.mp hhandler with rfl | rfl | rfl
  · apply returns_provider_fieldWritten hout
    intro hservices
    rw [hw.services] at hservices
    exact ⟨e.component, hw.provider hservices, halive⟩
  · rw [Handler.fieldWritten, Configurator.fieldWritten, Run.returns_bind,
      Run.returns_configurator]
    exact returns_writeProperties hout.log _ w
  · exact (Run.returns_pure ()).mpr ⟨.of_idle ⟨rfl, rfl⟩, rfl⟩

theorem returns_handlers_fieldWritten {handlers : List Handler} (hw : e.Staffed w)
    (halive : (w.component e.component).isAlive = true)
    (hhandlers : ∀ handler ∈ handlers, handler ∈ e.handlers) :
    (handlers.forM fun handler => handler.fieldWritten out field value).Returns w fun _ w' =>
      Writes view field value (handlers.flatMap w.servicesOf) (handlers.flatMap w.propertiesOf)
        w w' ∧ w'.component = w.component := by
  induction handlers generalizing w with
  | nil => exact (Run.returns_pure ()).mpr ⟨.of_idle ⟨rfl, rfl⟩, rfl⟩
  | cons handler rest ih =>
      rw [Run.returns_forM_cons]
      refine (returns_handler_fieldWritten hout hw halive
        (hhandlers handler List.mem_cons_self)).mono ?_
      rintro _ u ⟨hwrites, hcomponent⟩
      have hu : e.Staffed u := hw.of_same (by rw [hcomponent]) (by rw [hwrites.provider])
        (by rw [hwrites.configurator])
      have hservices : u.servicesOf = w.servicesOf := by
        funext other
        simp only [World.servicesOf, hwrites.provider]
      have hproperties : u.propertiesOf = w.propertiesOf := by
        funext other
        simp only [World.propertiesOf, hwrites.configurator]
      refine (ih hu (by rw [hcomponent, halive]) fun other hother =>
        hhandlers other (List.mem_cons_of_mem handler hother)).mono ?_
      rintro _ v ⟨hrest, hcomponent'⟩
      rw [hservices, hproperties] at hrest
      exact ⟨hwrites.append hrest, hcomponent'.trans hcomponent⟩

/-- A step that writes a field of a component: interested handlers give the value to what they
hold, and it is stored. -/
structure Stores (view : σ → τ) (e : Ensemble) (field : String) (value : Value)
    (w w' : World σ) : Prop where
  writes : Writes view field value
    (((w.component e.component).interested field).flatMap w.servicesOf)
    (((w.component e.component).interested field).flatMap w.propertiesOf) w w'
  component : ∀ r, w'.component r = if r = e.component then
    { w.component r with fields := (w.component r).fields.insert field value } else w.component r

theorem returns_setField (hw : e.Staffed w) (field : String) (value : Value) :
    (Component.setField out e.component field value).Returns w fun _ =>
      Stores view e field value w := by
  have hheld : e.Staffed (w.hold e.component) := hw.of_same (by simp [World.hold]) rfl rfl
  have halive : ((w.hold e.component).component e.component).isAlive = true := by
    simp [World.hold, Component.isAlive]
  have hinterested : ((w.hold e.component).component e.component).interested field =
      (w.component e.component).interested field := by
    simp [World.hold, Component.interested]
  rw [Component.setField, Run.returns_holding]
  simp only [Run.returns_bind, Run.returns_component, hinterested]
  refine (returns_handlers_fieldWritten hout hheld halive fun _ => hw.mem_interested).mono ?_
  rintro _ u ⟨hwrites, hcomponent⟩
  rw [Run.returns_changeComponent]
  refine ⟨{ hwrites with }, fun r => ?_⟩
  simp only [World.release, World.component_changeComponent, hcomponent, World.hold]
  split
  next heq => simp [heq]
  next => rfl

end Handlers

/-! ## Reads -/

section Reading

variable {view : σ → τ} {e : Ensemble} {field : String} {value : Value} {w w' : World σ}

/-- A read of a staffed component returns, and what it returns is what the field comes to. -/
theorem returns_getField_staffed (out : Collaborators σ) (hw : e.Staffed w) (field : String) :
    (Component.getField out e.component field).Returns w fun answer _ =>
      answer = w.fieldValue e.component field := by
  apply returns_getField_of_reads
  intro handler hhandler value u
  have hlibrary : handler.guest? = none := by
    rcases Ensemble.mem_handlers.mp (hw.mem_interested hhandler) with rfl | rfl | rfl <;> rfl
  refine (returns_readField_of_library hlibrary field value u).mono ?_
  rintro answer _ ⟨hanswer, rfl⟩
  exact ⟨hanswer, rfl⟩

namespace Writes

variable {services : List (Ref .service)} {properties : List (Ref .property)}

/-- A handler whose services and properties have been written to reads the field as the value,
if it has a value for it. -/
theorem reading_eq (h : Writes view field value services properties w w') {handler : Handler}
    (hservices : ∀ s ∈ w.servicesOf handler, s ∈ services)
    (hproperties : ∀ r ∈ w.propertiesOf handler, r ∈ properties) {read : Value}
    (hread : w'.reading field handler = some read) :
    Value.sameOption (some read) (some value) = true := by
  cases handler with
  | provider r =>
      rw [World.reading, h.provider] at hread
      obtain ⟨service, hservice, hfield⟩ := List.exists_of_findSome?_eq_some hread
      obtain ⟨s, hs, rfl⟩ := List.mem_map.mp hservice
      rw [h.service, if_pos (hservices s hs)] at hfield
      exact (w.service s).field?_writtenTo hfield
  | configurator r =>
      rw [World.reading, h.configurator] at hread
      obtain ⟨property, hfound, hvalue⟩ := Option.bind_eq_some_iff.mp hread
      obtain ⟨p, hp, rfl⟩ := List.mem_map.mp (List.mem_of_find?_eq_some hfound)
      have hbacked : (w'.property p).isBackedBy field = true := by
        simpa using List.find?_some hfound
      have hfield : (w.property p).field = some field := by
        rw [← h.field_eq]
        exact ConfigurableProperty.isBackedBy_iff.mp hbacked
      rw [h.property, if_pos ⟨hproperties p hp, hfield⟩] at hvalue
      have hholds := (w.property p).holds_assign value
      rw [ConfigurableProperty.holds, hvalue] at hholds
      exact hholds
  | caller _ => cases hread
  | guest _ _ => cases hread

/-- Every handler reads another field as it did. -/
theorem reading_of_ne (h : Writes view field value services properties w w') {other : String}
    (hother : other ≠ field) : w'.reading other = w.reading other := by
  have hservice : ∀ s, (w'.service s).field? other = (w.service s).field? other := by
    intro s
    rw [h.service]
    split
    · exact (w.service s).field?_writtenTo_of_ne hother
    · rfl
  have hbacked : ∀ r, (w'.property r).isBackedBy other = (w.property r).isBackedBy other := by
    intro r
    rw [ConfigurableProperty.isBackedBy, h.field_eq, ConfigurableProperty.isBackedBy]
  funext handler
  cases handler with
  | provider r =>
      simp only [World.reading, h.provider, List.findSome?_map, Function.comp_def, hservice]
  | configurator r =>
      simp only [World.reading, h.configurator, List.find?_map, Function.comp_def, hbacked,
        Option.bind_map]
      refine Option.bind_congr fun p hp => ?_
      -- The property that is found is backed by the other field, so it was not written.
      have hfound : (w.property p).field = some other :=
        ConfigurableProperty.isBackedBy_iff.mp (by simpa using List.find?_some hp)
      rw [h.property, if_neg]
      rintro ⟨-, hfield⟩
      exact hother (Option.some.inj (hfound.symm.trans hfield))
  | caller _ => rfl
  | guest _ _ => rfl

end Writes

namespace Stores

theorem interested_eq (h : Stores view e field value w w') (other : String) :
    (w'.component e.component).interested other = (w.component e.component).interested other := by
  rw [h.component, if_pos rfl, Component.interested, Component.interested]

theorem staffed (h : Stores view e field value w w') (hw : e.Staffed w) : e.Staffed w' := by
  apply hw.of_same
  · rw [h.component, if_pos rfl]
  · rw [h.writes.provider]
  · rw [h.writes.configurator]

/-- The field comes to the value: all interested handlers have it, and it is stored. -/
theorem fieldValue_eq (h : Stores view e field value w w') :
    Value.sameOption (w'.fieldValue e.component field) (some value) = true := by
  rw [World.fieldValue]
  cases hlast : (w'.readings e.component field).getLast? with
  | none =>
      rw [h.component, if_pos rfl, Option.none_or, Dictionary.get?_insert, if_pos rfl]
      exact Value.sameOption_refl _
  | some read =>
      obtain ⟨handler, hhandler, hread⟩ := List.mem_filterMap.mp (List.mem_of_getLast? hlast)
      rw [h.interested_eq] at hhandler
      exact h.writes.reading_eq (fun s hs => List.mem_flatMap.mpr ⟨handler, hhandler, hs⟩)
        (fun r hr => List.mem_flatMap.mpr ⟨handler, hhandler, hr⟩) hread

/-- Every other field comes to what it did. -/
theorem fieldValue_of_ne (h : Stores view e field value w w') {other : String}
    (hother : other ≠ field) :
    w'.fieldValue e.component other = w.fieldValue e.component other := by
  have hstored : (w'.component e.component).fields.get? other =
      (w.component e.component).fields.get? other := by
    rw [h.component, if_pos rfl, Dictionary.get?_insert, if_neg hother]
  rw [World.fieldValue, World.readings, h.interested_eq, h.writes.reading_of_ne hother, hstored]
  rfl

end Stores

end Reading

/-! ## One write -/

/-- What a write of a field comes to. -/
structure Ensemble.Written (view : σ → τ) (e : Ensemble) (out : Collaborators σ) (field : String)
    (value : Value) (w w' : World σ) : Prop where
  /-- The field reads as the value. -/
  read : (Component.getField out e.component field).Returns w' fun answer _ =>
    Value.sameOption answer (some value) = true
  /-- Every other field reads as it did. -/
  others : ∀ other, other ≠ field →
    (Component.getField out e.component other).Returns w fun before _ =>
      (Component.getField out e.component other).Returns w' fun after _ => after = before
  /-- A configurable property that the field does not back is what it was. -/
  property : ∀ r, (w.property r).field ≠ some field → w'.property r = w.property r
  /-- So is every property of a service. -/
  service : ∀ s, List.Forall₂ (fun before after => after.declared = before.declared ∧
      (before.declared.field ≠ some field → after = before))
    (w.service s).properties (w'.service s).properties
  extras : ∀ s, (w'.service s).extras = (w.service s).extras
  propagated : ∀ r, (w'.configurator r).propagated = (w.configurator r).propagated
  state : ∀ r, (w'.component r).state = (w.component r).state
  registration : ∀ s, (w'.service s).registration = (w.service s).registration
  publication : ∀ r, (w'.configurator r).publication = (w.configurator r).publication
  /-- What the registry and the host hold is what it was, as far as it is in view. -/
  seen : view w'.surroundings = view w.surroundings

section Written

variable {view : σ → τ} {e : Ensemble} {field : String} {value : Value} {w w' : World σ}

theorem Stores.written (h : Stores view e field value w w') (hw : e.Staffed w)
    (out : Collaborators σ) : e.Written view out field value w w' := by
  have hservice : ∀ s, w'.service s = (w.service s).writtenTo field value ∨
      w'.service s = w.service s := by
    intro s
    rw [h.writes.service]
    split
    · exact .inl rfl
    · exact .inr rfl
  constructor
  case read =>
    refine (returns_getField_staffed out (h.staffed hw) field).mono ?_
    rintro answer _ rfl
    exact h.fieldValue_eq
  case others =>
    intro other hother
    refine (returns_getField_staffed out hw other).mono ?_
    rintro before _ rfl
    refine (returns_getField_staffed out (h.staffed hw) other).mono ?_
    rintro after _ rfl
    exact h.fieldValue_of_ne hother
  case property =>
    intro r hfield
    rw [h.writes.property, if_neg fun hgiven => hfield hgiven.2]
  case service =>
    intro s
    rcases hservice s with hwritten | hsame
    · rw [hwritten, Service.properties_writtenTo]
      exact Service.forall₂_assignFirst _
    · rw [hsame]
      exact List.forall₂_same.mpr fun _ _ => ⟨rfl, fun _ => rfl⟩
  case extras =>
    intro s
    rcases hservice s with hwritten | hsame
    · rw [hwritten, (Service.writtenTo_frame _).2.1]
    · rw [hsame]
  case registration =>
    intro s
    rcases hservice s with hwritten | hsame
    · rw [hwritten, (Service.writtenTo_frame _).2.2]
    · rw [hsame]
  case state =>
    intro r
    rw [h.component]
    split
    next heq => rw [heq]
    next => rfl
  case propagated => exact fun r => by rw [h.writes.configurator]
  case publication => exact fun r => by rw [h.writes.configurator]
  case seen => exact h.writes.seen

/-- After any operations of a component that was configured with any of the handlers in any
order, whoever ran operations within them, a field that is written reads as the value, and
nothing else has moved, whether or not the registry refuses what it is told. -/
theorem read_after_write {out out' : Collaborators σ} {candidates : List Handler}
    {w₀ w₁ w₂ : World σ} (hout : Layered e.Operates (Sociable e) out)
    (hemployed : e.Employed out candidates w₀ w₁)
    (hturn : Turn (Elsewhere e) (e.Operates out) w₁ w₂) (hplacid : Placid view out')
    (field : String) (value : Value) :
    (Component.setField out' e.component field value).Returns w₂ fun _ =>
      e.Written view out' field value w₂ := by
  have hw : e.Staffed w₂ := hemployed.staffed.of_turn hout hturn
  refine (returns_setField hplacid hw field value).mono ?_
  intro _ w' hstores
  exact hstores.written hw out'

end Written

/-! ## A panel -/

/-- Collaborators that take turns only while a method is called are sociable. -/
theorem Reserved.sociable {τ : Type} {view : σ → τ} {callbacks : World σ → World σ → Prop}
    {out : Collaborators σ} (hout : Reserved view callbacks out) : Sociable e callbacks out where
  register specifications properties factory w :=
    (hout.register specifications properties factory w).mono fun _ _ hidle =>
      .single (.inl hidle.elsewhere)
  unregister handle w :=
    (hout.unregister handle w).mono fun _ _ hidle => .single (.inl hidle.elsewhere)
  update handle properties w :=
    (hout.update handle properties w).mono fun _ _ hidle => .single (.inl hidle.elsewhere)
  publish identity properties target w :=
    (hout.publish identity properties target w).mono fun _ _ hidle =>
      .single (.inl hidle.elsewhere)
  withdraw handle w :=
    (hout.withdraw handle w).mono fun _ _ hidle => .single (.inl hidle.elsewhere)
  call number component w :=
    (hout.call number component w).mono fun _ _ hturn =>
      hturn.lift id fun _ _ hstep => hstep.imp_left Idle.elsewhere

/-- A component with properties of all kinds: one whose field a service shows, too, two with
other fields, and one without a field. A callback tunes it as soon as it is valid. -/
def Component.panel : Component :=
  .create
    (.build "Panel" [("gain", "int"), ("label", Value.textTypeName), ("rate", "int")] ["Tuner"]
      [(Element.leaf "Provides").withChild ((Element.leaf "Property").withAttribute "field" "gain"),
        ((((Element.leaf "Properties").withChild
          (((Element.leaf "Property").withAttribute "field" "gain").withAttribute "value" "1")).withChild
          (((Element.leaf "Property").withAttribute "field" "label").withAttribute "value" "main")
          ).withChild
          (((Element.leaf "Property").withAttribute "field" "rate").withAttribute "value" "2")
          ).withChild ((Element.leaf "Property").withAttribute "name" "mode"),
        ((Element.leaf "callback").withAttribute "final" "VALID").withAttribute "method" "tune"])
    (.ofList [("tune", ⟨"tune", false, false, 0⟩)])

/-- The panel on a platform of its own. -/
def World.panel (surroundings : σ) : World σ where
  platform :=
    { Platform.ofSettings .standard with components := (Store.empty.add Component.panel).2 }
  surroundings := surroundings

/-- The panel with its handlers, its service and its properties. -/
def Ensemble.panel : Ensemble :=
  ⟨⟨0⟩, ⟨0⟩, ⟨0⟩, ⟨0⟩, [⟨0⟩], [⟨0⟩, ⟨1⟩, ⟨2⟩, ⟨3⟩]⟩

namespace Registry

/-- The method writes a field of the panel. -/
def tuning : Collaborators Registry :=
  collaborators (Ensemble.panel.performing (collaborators (return .returned))
    [.setField "gain" (.integer 5)] .returned)

theorem layered_tuning : Layered Ensemble.panel.Operates (Sociable Ensemble.panel) tuning := by
  have hquiet : Layered Ensemble.panel.Operates (Sociable Ensemble.panel)
      (collaborators (return .returned)) :=
    .bottom (reserved_collaborators fun w => (Run.ensures_pure _).mpr .refl).sociable
  exact hquiet.above (reserved_collaborators (Ensemble.panel.turn_performing _ _ _)).sociable

/-- The registry refuses all updates. -/
def refusing : Collaborators Registry :=
  { collaborators (return .returned) with
    update := fun _ _ => return .error (.registry (.refused "busy")) }

theorem receptive_refusing : Receptive refusing where
  update _ _ _ := (Run.returns_pure _).mpr rfl
  rounds := Nat.one_pos

theorem placid_refusing : Placid id refusing where
  log _ _ := rfl
  update _ _ _ := (Run.returns_pure _).mpr ⟨rfl, rfl⟩
  rounds := Nat.one_pos

end Registry

/-- The panel is configured with its handlers the other way round and started, whereby it is
tuned. Then a field is written, and the registry refuses to be told: the service is registered
under the same handle, and the record shows what was written before. -/
theorem read_after_write_panel :
    ∃ w₁ w₂ w₃ : World Registry,
      (Component.configure Registry.tuning ⟨0⟩ Ensemble.panel.handlers.reverse .empty).run
        (.panel .empty) = some ((), w₁) ∧
      (Component.start Registry.tuning ⟨0⟩).run w₁ = some ((), w₂) ∧
      (Component.setField Registry.refusing ⟨0⟩ "gain" (.integer 9)).run w₂ = some ((), w₃) ∧
      (w₃.service ⟨0⟩).registration = some ⟨1⟩ ∧
      (w₃.property ⟨0⟩).holds (.integer 9) = true ∧
      w₃.surroundings.records.map (fun record => Value.sameOption (record.properties.get? "gain")
        (some (.integer 5))) = [true] ∧
      Ensemble.panel.Written id Registry.refusing "gain" (.integer 9) w₂ w₃ := by
  have hends : ((Component.configure Registry.tuning ⟨0⟩ Ensemble.panel.handlers.reverse .empty).run
      (.panel .empty)).bind (fun first => ((Component.start Registry.tuning ⟨0⟩).run first.2).bind
        fun second => ((Component.setField Registry.refusing ⟨0⟩ "gain" (.integer 9)).run
          second.2).map fun third =>
            decide ((first.2.provider ⟨0⟩).services = Ensemble.panel.services ∧
              (third.2.service ⟨0⟩).registration = some ⟨1⟩ ∧
              (third.2.property ⟨0⟩).holds (.integer 9) = true ∧
              third.2.surroundings.records.map (fun record => Value.sameOption
                (record.properties.get? "gain") (some (.integer 5))) = [true])) = some true := by
    decide +kernel
  obtain ⟨⟨⟨⟩, w₁⟩, hconfigured, hends⟩ := Option.bind_eq_some_iff.mp hends
  obtain ⟨⟨⟨⟩, w₂⟩, hstarted, hends⟩ := Option.bind_eq_some_iff.mp hends
  obtain ⟨⟨⟨⟩, w₃⟩, hset, hfacts⟩ := Option.map_eq_some_iff.mp hends
  obtain ⟨hservices, hregistered, hgain, hstale⟩ := of_decide_eq_true hfacts
  have hemployed : Ensemble.panel.Employed Registry.tuning Ensemble.panel.handlers.reverse
      (.panel .empty) w₁ :=
    ⟨⟨_, _, rfl⟩, rfl, rfl, fun _ => List.mem_reverse.mp, ⟨.empty, hconfigured⟩, hservices⟩
  obtain ⟨⟨⟩, w, hrun, hwritten⟩ := read_after_write Registry.layered_tuning hemployed
    (.single (.inr ⟨.start, hstarted⟩)) Registry.placid_refusing "gain" (.integer 9)
  cases hrun.symm.trans hset
  exact ⟨w₁, w₂, w₃, hconfigured, hstarted, hset, hregistered, hgain, hstale, hwritten⟩

end Componentry

import Componentry.Proofs.Field.Writing
import Componentry.Proofs.Registration.Following

/-!
# What a write reaches

A field that is written gives its value to the first property that it backs in each service, and
to no other. Where a service has several properties of the field, those behind the first one stay
as they are, and its record in the registry goes on to show what they were. All of them hold the
value exactly if those behind the first held it before.
-/

namespace Componentry

variable {σ : Type}

/-! ## Services -/

namespace Service

section Assigning

variable {field : String} {value : Value}

theorem map_declared_assignFirst (properties : List ServiceProperty) :
    (assignFirst field value properties).map ServiceProperty.declared =
      properties.map ServiceProperty.declared := by
  induction properties with
  | nil => rfl
  | cons property rest ih =>
      rw [assignFirst]
      split
      · rw [List.map_cons, ServiceProperty.declared_assign, List.map_cons]
      · rw [List.map_cons, ih, List.map_cons]

/-- All properties that the field backs have the value if those behind the first one had it. -/
theorem forall_assignFirst_iff (properties : List ServiceProperty) :
    (∀ property ∈ assignFirst field value properties,
        property.isBackedBy field = true → property.holds value = true) ↔
      ∀ property ∈ (properties.filter (·.isBackedBy field)).tail, property.holds value = true := by
  induction properties with
  | nil => simp [assignFirst]
  | cons property rest ih =>
      rw [assignFirst]
      split
      next hbacked =>
        have hfirst : (property.assign value).holds value = true := ServiceProperty.holds_assign
        rw [List.filter_cons, if_pos hbacked, List.tail_cons, List.forall_mem_cons]
        simp only [hfirst, implies_true, true_and, List.mem_filter, and_imp]
      next hother =>
        rw [List.filter_cons, if_neg hother, List.forall_mem_cons, ih]
        simp [hother]

end Assigning

/-- A property is shown if it has a value, and neither a propagated entry nor a later property
of its name hides it. -/
structure Shows (service : Service) (property : ServiceProperty) : Prop where
  valued : property.value.isSome = true
  unpropagated : service.extras.get? property.declared.name = none
  last : ∃ ahead behind, service.properties = ahead ++ property :: behind ∧
    ∀ other ∈ behind, other.declared.name = property.declared.name → other.value = none

/-- The visible properties have the value of a property that is shown under its name. -/
theorem Shows.get?_visible {service : Service} {property : ServiceProperty}
    (h : service.Shows property) :
    service.visible.get? property.declared.name = property.value := by
  obtain ⟨hvalued, hunpropagated, ahead, behind, hproperties, hlast⟩ := h
  obtain ⟨value, hvalue⟩ := Option.isSome_iff_exists.mp hvalued
  have hentry : property.entry? = some (property.declared.name, value) := by
    rw [ServiceProperty.entry?, hvalue, Option.map_some]
  rw [visible, Dictionary.get?_override, hunpropagated, Option.none_or, hproperties,
    List.filterMap_append, List.filterMap_cons_some hentry, hvalue]
  apply Dictionary.get?_ofList_append
  intro entry hentry hname
  obtain ⟨other, hother, hshown⟩ := List.mem_filterMap.mp hentry
  obtain ⟨_, hsome, rfl⟩ := Option.map_eq_some_iff.mp hshown
  rw [hlast other hother hname] at hsome
  cases hsome

end Service

/-! ## Listed services -/

/-- The registry holds the records of the services of a staffed component, whose provider is
interested in all fields that back their properties. -/
structure Listed (books : σ → Books) (others : List ServiceRecord) (e : Ensemble) (w : World σ) :
    Prop extends Kept books others e w where
  staffed : e.Staffed w
  interested : ∀ s ∈ e.services, ∀ property ∈ (w.service s).properties,
    ∀ field ∈ property.declared.field,
      .provider e.provider ∈ (w.component e.component).interested field

/-- The regime of operations on listed services. -/
def listing (books : σ → Books) (others : List ServiceRecord) (e : Ensemble) : Regime σ where
  holds := Listed books others e
  leads _ _ := True
  refl _ := trivial
  trans _ _ := trivial

variable {books : σ → Books} {others : List ServiceRecord} {e : Ensemble} {w w' : World σ}

namespace Listed

/-- What the provider is interested in is a matter of what is declared. -/
theorem of_same (hw : Listed books others e w) (hkept : Kept books others e w')
    (hstaffed : e.Staffed w')
    (hattachments : (w'.component e.component).attachments = (w.component e.component).attachments)
    (hdeclared : ∀ s ∈ e.services, (w'.service s).properties.map ServiceProperty.declared =
      (w.service s).properties.map ServiceProperty.declared) : Listed books others e w' := by
  refine ⟨hkept, hstaffed, ?_⟩
  intro s hs property hproperty field hfield
  have hmem := List.mem_map_of_mem (f := ServiceProperty.declared) hproperty
  rw [hdeclared s hs] at hmem
  obtain ⟨before, hbefore, heq⟩ := List.mem_map.mp hmem
  rw [Component.interested, hattachments]
  apply hw.interested s hs before hbefore
  rw [heq]
  exact hfield

/-- No service has changed, nor what handlers hold. -/
theorem of_unchanged (hw : Listed books others e w) (hservice : w'.service = w.service)
    (hattachments : (w'.component e.component).attachments = (w.component e.component).attachments)
    (hprovider : w'.provider e.provider = w.provider e.provider)
    (hconfigurator : (w'.configurator e.configurator).component =
      (w.configurator e.configurator).component)
    (hregistry : (books w'.surroundings).registry = (books w.surroundings).registry)
    (hrefused : (books w'.surroundings).refused = (books w.surroundings).refused) :
    Listed books others e w' := by
  have hkept : Kept books others e w' := by
    apply hw.toKept.of_service hservice
    rw [hregistry, hrefused]
    exact hw.ledger
  apply hw.of_same hkept (hw.staffed.of_same hattachments hprovider hconfigurator) hattachments
  intro s _
  rw [hservice]

theorem of_platform (hw : Listed books others e w) (hplatform : w'.platform = w.platform)
    (hkept : Kept books others e w') : Listed books others e w' := by
  obtain ⟨hcomponent, hservice, -, hprovider, hconfigurator, -⟩ :=
    World.objects_of_platform hplatform
  have hstaffed : e.Staffed w' := by
    apply hw.staffed.of_same
    · rw [hcomponent]
    · rw [hprovider]
    · rw [hconfigurator]
  apply hw.of_same hkept hstaffed
  · rw [hcomponent]
  · intro s _
    rw [hservice]

end Listed

/-- A change of a service that leaves how its properties are declared. -/
theorem listing_of_replaced {s : Ref .service} {service : Service}
    (hreplaced : Replaced books others e s service w w')
    (hdeclared : service.properties.map ServiceProperty.declared =
      (w.service s).properties.map ServiceProperty.declared) :
    (listing books others e).Allows w w' := by
  intro hw
  have hframe := World.setService_frame w s service
  obtain ⟨-, -, -, hprovider, hconfigurator, -⟩ := World.objects_of_platform hreplaced.platform
  have hstaffed : e.Staffed w' := by
    apply hw.staffed.of_same
    · rw [hreplaced.component_eq]
    · rw [hprovider, hframe.2.2.2.1]
    · rw [hconfigurator, hframe.2.2.2.2.1]
  refine ⟨hw.of_same hreplaced.kept hstaffed (by rw [hreplaced.component_eq]) ?_, trivial⟩
  intro t _
  rw [hreplaced.service_eq]
  split
  next heq => rw [hdeclared, heq]
  next => rfl

theorem listing_of_follows {s : Ref .service} {change : Option Service}
    (hfollows : Follows books others e s change w w')
    (hdeclared : ∀ service, change = some service →
      service.properties.map ServiceProperty.declared =
        (w.service s).properties.map ServiceProperty.declared) :
    (listing books others e).Allows w w' := by
  apply hfollows.allows
  intro service hchange hreplaced
  exact listing_of_replaced hreplaced (hdeclared service hchange)

theorem listing_of_idle (hidle : Idle books w w') : (listing books others e).Allows w w' := by
  intro hw
  refine ⟨hw.of_platform hidle.1 ?_, trivial⟩
  apply hw.toKept.of_service (World.objects_of_platform hidle.1).2.1
  rw [hidle.2]
  exact hw.ledger

theorem listing_changeConfigurator {f : Configurator → Configurator}
    (hcomponent : ∀ c, (f c).component = c.component) :
    (listing books others e).Keeps (Run.changeConfigurator e.configurator f) := by
  intro w _
  rw [Run.ensures_changeConfigurator]
  intro hw
  refine ⟨hw.of_unchanged rfl rfl rfl ?_ rfl rfl, trivial⟩
  rw [World.configurator_changeConfigurator, if_pos rfl, hcomponent]

section Operations

variable {callbacks : World σ → World σ → Prop} {out : Collaborators σ}
  (hout : InMemory books callbacks out)
include hout

theorem tolerates_listing : (listing books others e).Tolerates e out where
  staffed hw := hw.staffed
  slight h hw := by
    refine ⟨hw.of_unchanged h.service (h.attachments _) (by rw [h.provider])
      (by rw [h.configurator]) ?_ ?_, trivial⟩ <;> rw [h.surroundings]
  note record w _ := by
    rw [Run.ensures_note]
    exact listing_of_idle ⟨rfl, hout.log record _⟩

theorem listing_tell (event : Event) : (listing books others e).Keeps (out.tell event) := by
  intro w _
  rw [Run.ensures_tell]
  intro hw
  refine ⟨hw.of_unchanged rfl rfl rfl rfl ?_ ?_, trivial⟩ <;>
    rw [World.surroundings_changeSurroundings, hout.announce]

theorem listing_write {s : Ref .service} (hs : s ∈ e.services) (field : String)
    (value : Value) : (listing books others e).Keeps (Service.write out s field value) := by
  intro w hw
  refine (ensures_write_prompt hout hw.toKept hs field value).mono ?_
  intro _ w' hfollows
  apply listing_of_follows hfollows
  intro changed hwritten
  have hchanged : changed = (w.service s).writtenTo field value := by
    rw [Service.writtenTo, hwritten, Option.getD_some]
  rw [hchanged, Service.properties_writtenTo, Service.map_declared_assignFirst]

theorem listing_extend {s : Ref .service} (hs : s ∈ e.services) (entries : Properties) :
    (listing books others e).Keeps (Service.extend out s entries) := by
  intro w hw
  refine (ensures_extend_prompt hout hw.toKept hs entries).mono ?_
  intro _ w' hfollows
  apply listing_of_follows hfollows
  intro changed hextended
  rw [(Service.extended?_eq_some hextended).2.1]

theorem listing_reduce {s : Ref .service} (hs : s ∈ e.services) (entries : Properties) :
    (listing books others e).Keeps (Service.reduce out s entries) := by
  intro w hw
  refine (ensures_reduce_prompt hout hw.toKept hs entries).mono ?_
  intro _ w' hfollows
  apply listing_of_follows hfollows
  intro changed hreduced
  rw [(Service.reduced?_eq_some hreduced).2.1]

/-- All parts of operations leave services listed, over a registry in memory. -/
theorem tends_listing (hcallbacks : ∀ w w', callbacks w w' → (listing books others e).Allows w w') :
    (listing books others e).Tends e out := by
  have T : (listing books others e).Tolerates e out := tolerates_listing hout
  have htell : ∀ event, (listing books others e).Keeps (out.tell event) := listing_tell hout
  have hkept : ∀ {w}, (listing books others e).holds w → Kept books others e w :=
    fun hw => hw.toKept
  have hpublication : ∀ publication, (listing books others e).Keeps
      (Run.changeConfigurator e.configurator fun c => { c with publication := publication }) :=
    fun _ => listing_changeConfigurator fun _ => rfl
  have hwithdraw : ∀ handle, (listing books others e).Keeps (out.withdraw handle) :=
    fun handle w _ => (hout.withdraw handle w).mono fun _ _ => listing_of_idle
  exact
    { T with
      state := fun state w _ => by
        rw [Run.ensures_changeComponent]
        exact fun hw => ⟨hw.of_unchanged rfl (by simp) rfl rfl rfl rfl, trivial⟩
      tracked := fun tracked w _ => by
        rw [Run.ensures_changeCaller]
        exact fun hw => ⟨hw.of_unchanged rfl rfl rfl rfl rfl rfl, trivial⟩
      tell := htell
      call := fun number component w _ => (hout.call number component w).mono fun _ _ =>
        .of_turn (fun _ _ => listing_of_idle) hcallbacks
      publish := T.configurator_publish hpublication hwithdraw
        (fun identity properties target w _ =>
          (hout.publish identity properties target w).mono fun _ _ => listing_of_idle)
        fun _ _ => htell _
      withdraw := T.configurator_withdraw hpublication hwithdraw fun _ _ => htell _
      register := fun s hs => keeps_register_prompt hout hkept hs
        (fun hreplaced => listing_of_replaced hreplaced rfl)
        fun hplatform hkept' _ hw => ⟨hw.of_platform hplatform hkept', trivial⟩
      unregister := fun s hs => keeps_unregister_prompt hout hkept hs
        fun hreplaced => listing_of_replaced hreplaced rfl
      write := fun s hs field value => listing_write hout hs field value
      propagate := T.configurator_propagate (fun s hs => listing_extend hout hs)
        (fun s hs => listing_reduce hout hs) fun _ => listing_changeConfigurator fun _ => rfl }

end Operations

/-- Services stay listed through all operations. -/
theorem Listed.of_turn {out : Collaborators σ} (hw : Listed books others e w)
    (hout : Layered e.Operates (InMemory books) out)
    (hturn : Turn (Idle books) (e.Operates out) w w') : Listed books others e w' := by
  have hoperates : ∀ u v, e.Operates out u v → (listing books others e).Allows u v := by
    intro u v hoperates
    apply hout.operates_allowed _ hoperates
    intro callbacks out hcallbacks hrule
    exact (tends_listing hrule hcallbacks).operation
  have hallows : (listing books others e).Allows w w' :=
    .of_turn (fun _ _ => listing_of_idle) hoperates hturn
  exact (hallows hw).1

/-- The services of a component that was configured are listed. -/
theorem Ensemble.Employed.listed {out : Collaborators σ} {candidates : List Handler}
    (h : e.Employed out candidates w w') (hlog : ∀ record t, books (out.log record t) = books t)
    (hothers : (books w.surroundings).registry.Holds others) : Listed books others e w' := by
  obtain ⟨hstarts, -, -⟩ := h.starts hlog
  obtain ⟨hdistinct, hfresh⟩ := h.fresh
  rw [← hstarts.seen] at hothers
  exact ⟨.of_fresh hdistinct (fun s hs => (hfresh s hs).1) hothers, h.staffed,
    fun s hs => (hfresh s hs).2⟩

/-! ## One write -/

/-- What a write of a field comes to in services, and what the registry shows of it. -/
structure Ensemble.Reaches (books : σ → Books) (e : Ensemble) (field : String) (value : Value)
    (w w' : World σ) : Prop where
  held : (w'.provider e.provider).services = e.services
  /-- In each service the first property that the field backs takes the value, and no other. -/
  first : ∀ s ∈ e.services,
    (w'.service s).properties = Service.assignFirst field value (w.service s).properties
  /-- All that the field backs hold it exactly if those behind the first one did. -/
  all_iff : ∀ s ∈ e.services,
    (∀ property ∈ (w'.service s).properties,
        property.isBackedBy field = true → property.holds value = true) ↔
      ∀ property ∈ ((w.service s).properties.filter (·.isBackedBy field)).tail,
        property.holds value = true
  /-- The record of a registered service shows the value under the name of each shown property
  that holds it, and of no other one. -/
  recorded : (books w'.surroundings).refused = false → ∀ s ∈ e.services, ∀ handle,
    (w'.service s).registration = some handle →
      ∃ record, (books w'.surroundings).registry.record? handle = some record ∧
        ∀ property, (w'.service s).Shows property →
          Value.sameOption (record.properties.get? property.declared.name) (some value) =
            property.holds value

/-- A write changes every service that is listed, as the provider is interested in the field
if it backs a property. -/
theorem Stores.service_eq {τ : Type} {view : σ → τ} {field : String} {value : Value}
    (h : Stores view e field value w w') (hw : Listed books others e w) {s : Ref .service}
    (hs : s ∈ e.services) : w'.service s = (w.service s).writtenTo field value := by
  rw [h.writes.service]
  split
  next => rfl
  next hnot =>
    rw [Service.writtenTo_of_not_hasField]
    rw [← Bool.not_eq_true, Service.hasField, List.any_eq_true]
    rintro ⟨property, hproperty, hbacked⟩
    apply hnot
    have hfield := ServiceProperty.isBackedBy_iff.mp hbacked
    refine List.mem_flatMap.mpr ⟨_, hw.interested s hs property hproperty field hfield, ?_⟩
    rw [World.servicesOf, hw.staffed.services]
    exact hs

theorem Stores.reaches {τ : Type} {view : σ → τ} {field : String} {value : Value}
    (h : Stores view e field value w w') (hw : Listed books others e w)
    (hw' : Listed books others e w') : e.Reaches books field value w w' := by
  have hproperties : ∀ s ∈ e.services, (w'.service s).properties =
      Service.assignFirst field value (w.service s).properties := by
    intro s hs
    rw [h.service_eq hw hs, Service.properties_writtenTo]
  constructor
  case held => exact hw'.staffed.services
  case first => exact hproperties
  case all_iff =>
    intro s hs
    rw [hproperties s hs]
    exact Service.forall_assignFirst_iff _
  case recorded =>
    intro hserved s hs handle hheld
    refine ⟨_, (hw'.holds_cons hs hheld hserved).record?_eq List.mem_cons_self, ?_⟩
    intro property hshows
    rw [hshows.get?_visible, ServiceProperty.holds]

/-- After any operations of a component that was configured with any of the handlers in any
order, over a registry in memory, a field that is written reaches the first property that it
backs in each service. As long as the registry has refused nothing, the records of registered
services show what the properties have come to. -/
theorem write_reaches_first {out : Collaborators σ} {candidates : List Handler}
    {w₀ w₁ w₂ : World σ} (hout : Layered e.Operates (InMemory books) out)
    (hemployed : e.Employed out candidates w₀ w₁)
    (hothers : (books w₀.surroundings).registry.Holds others)
    (hturn : Turn (Idle books) (e.Operates out) w₁ w₂) (hreceptive : Receptive out)
    (field : String) (value : Value) :
    (Component.setField out e.component field value).Returns w₂ fun _ =>
      e.Reaches books field value w₂ := by
  obtain ⟨callbacks, hrule⟩ := hout.exists_rule
  have hw : Listed books others e w₂ := (hemployed.listed hrule.log hothers).of_turn hout hturn
  obtain ⟨⟨⟩, w', hrun, hstores⟩ := returns_setField hreceptive.placid hw.staffed field value
  have hw' : Listed books others e w' :=
    hw.of_turn hout (.single (.inr ⟨.setField field value, hrun⟩))
  exact ⟨(), w', hrun, hstores.reaches hw hw'⟩

/-! ## A scale -/

/-- A component whose service has two properties of one field. -/
def Component.scale : Component :=
  .create
    (.build "Scale" [("weight", "int")] ["Weighing"]
      [((Element.leaf "Provides").withChild
          ((((Element.leaf "Property").withAttribute "name" "display").withAttribute
            "field" "weight").withAttribute "value" "1")).withChild
          ((((Element.leaf "Property").withAttribute "name" "print").withAttribute
            "field" "weight").withAttribute "value" "5")])
    .empty

/-- The scale on a platform of its own. -/
def World.scale (surroundings : σ) : World σ where
  platform :=
    { Platform.ofSettings .standard with components := (Store.empty.add Component.scale).2 }
  surroundings := surroundings

/-- The scale with its provider and its service. -/
def Ensemble.scale : Ensemble := ⟨⟨0⟩, ⟨0⟩, ⟨0⟩, ⟨0⟩, [⟨0⟩], []⟩

namespace Desk

/-- Collaborators of a desk, without methods. -/
def plain : Collaborators Desk := collaborators (return .returned)

theorem receptive_plain : Receptive plain where
  update handle properties w := by
    simp only [plain, collaborators, Collaborators.inMemory, askRegistry, Run.returns_bind,
      Run.returns_surroundings]
    split
    · simp only [Run.returns_bind, Run.returns_changeSurroundings, Run.returns_pure]
      rfl
    · exact (Run.returns_pure _).mpr rfl
  rounds := Nat.one_pos

end Desk

/-- What is written is what the second property holds already, so both hold it in the end. -/
theorem write_reaches_first_scale :
    ∃ w₁ w₂ w₃ : World Desk,
      (Component.configure Desk.plain ⟨0⟩ [.provider ⟨0⟩] .empty).run (.scale ⟨.empty, []⟩) =
        some ((), w₁) ∧
      (Component.start Desk.plain ⟨0⟩).run w₁ = some ((), w₂) ∧
      (Component.setField Desk.plain ⟨0⟩ "weight" (.integer 5)).run w₂ = some ((), w₃) ∧
      (w₂.service ⟨0⟩).properties.map (·.holds (.integer 5)) = [false, true] ∧
      (w₃.service ⟨0⟩).properties.map (·.holds (.integer 5)) = [true, true] ∧
      Ensemble.scale.Reaches Desk.accounts "weight" (.integer 5) w₂ w₃ := by
  have hends : ((Component.configure Desk.plain ⟨0⟩ [.provider ⟨0⟩] .empty).run
      (.scale ⟨.empty, []⟩)).bind (fun first => ((Component.start Desk.plain ⟨0⟩).run
        first.2).bind fun second => ((Component.setField Desk.plain ⟨0⟩ "weight"
          (.integer 5)).run second.2).map fun third =>
            decide ((first.2.provider ⟨0⟩).services = Ensemble.scale.services ∧
              (second.2.service ⟨0⟩).properties.map (·.holds (.integer 5)) = [false, true] ∧
              (third.2.service ⟨0⟩).properties.map (·.holds (.integer 5)) = [true, true])) =
        some true := by
    decide +kernel
  obtain ⟨⟨⟨⟩, w₁⟩, hconfigured, hends⟩ := Option.bind_eq_some_iff.mp hends
  obtain ⟨⟨⟨⟩, w₂⟩, hstarted, hends⟩ := Option.bind_eq_some_iff.mp hends
  obtain ⟨⟨⟨⟩, w₃⟩, hset, hfacts⟩ := Option.map_eq_some_iff.mp hends
  obtain ⟨hservices, hbefore, hafter⟩ := of_decide_eq_true hfacts
  have hemployed : Ensemble.scale.Employed Desk.plain [.provider ⟨0⟩] (.scale ⟨.empty, []⟩) w₁ :=
    ⟨⟨_, _, rfl⟩, rfl, rfl, by simp [Ensemble.handlers, Ensemble.scale], ⟨.empty, hconfigured⟩,
      hservices⟩
  obtain ⟨⟨⟩, w, hrun, hreaches⟩ := write_reaches_first (Desk.layered_returning Ensemble.scale)
    hemployed ⟨.refl [], .nil, Registry.numbered_empty⟩ (.single (.inr ⟨.start, hstarted⟩))
    Desk.receptive_plain "weight" (.integer 5)
  cases hrun.symm.trans hset
  exact ⟨w₁, w₂, w₃, hconfigured, hstarted, hset, hbefore, hafter, hreaches⟩

/-- What is written is something else: the second property stays as it was, and so does what the
registry shows of it, although the field backs it and nothing hides it. -/
theorem write_misses_second :
    ∃ w₁ w₂ w₃ : World Desk,
      (Component.configure Desk.plain ⟨0⟩ [.provider ⟨0⟩] .empty).run (.scale ⟨.empty, []⟩) =
        some ((), w₁) ∧
      (Component.start Desk.plain ⟨0⟩).run w₁ = some ((), w₂) ∧
      (Component.setField Desk.plain ⟨0⟩ "weight" (.integer 9)).run w₂ = some ((), w₃) ∧
      (w₃.provider ⟨0⟩).services = [⟨0⟩] ∧ (w₃.service ⟨0⟩).registration = some ⟨1⟩ ∧
      ∃ property ∈ (w₃.service ⟨0⟩).properties,
        property.isBackedBy "weight" = true ∧ (w₃.service ⟨0⟩).Shows property ∧
        property.holds (.integer 9) = false ∧
        (w₃.surroundings.registry.record? ⟨1⟩).map (fun record =>
          Value.sameOption (record.properties.get? property.declared.name)
            (some (.integer 9))) = some false := by
  have hends : ((Component.configure Desk.plain ⟨0⟩ [.provider ⟨0⟩] .empty).run
      (.scale ⟨.empty, []⟩)).bind (fun first => ((Component.start Desk.plain ⟨0⟩).run
        first.2).bind fun second => ((Component.setField Desk.plain ⟨0⟩ "weight"
          (.integer 9)).run second.2).map fun third =>
            decide ((third.2.provider ⟨0⟩).services = [⟨0⟩] ∧
              (third.2.service ⟨0⟩).registration = some ⟨1⟩ ∧
              (third.2.service ⟨0⟩).extras.isEmpty = true ∧
              (third.2.service ⟨0⟩).properties.map (fun property =>
                (property.isBackedBy "weight", property.value.isSome,
                  property.holds (.integer 9),
                  (third.2.surroundings.registry.record? ⟨1⟩).map fun record =>
                    Value.sameOption (record.properties.get? property.declared.name)
                      (some (.integer 9)))) =
                [(true, true, true, some true), (true, true, false, some false)])) =
        some true := by
    decide +kernel
  obtain ⟨⟨⟨⟩, w₁⟩, hconfigured, hends⟩ := Option.bind_eq_some_iff.mp hends
  obtain ⟨⟨⟨⟩, w₂⟩, hstarted, hends⟩ := Option.bind_eq_some_iff.mp hends
  obtain ⟨⟨⟨⟩, w₃⟩, hset, hfacts⟩ := Option.map_eq_some_iff.mp hends
  obtain ⟨hservices, hregistered, hextras, hproperties⟩ := of_decide_eq_true hfacts
  obtain ⟨first, rest, heq, -, hrest⟩ := List.map_eq_cons_iff.mp hproperties
  obtain ⟨second, last, rfl, hsecond, hlast⟩ := List.map_eq_cons_iff.mp hrest
  obtain rfl := List.map_eq_nil_iff.mp hlast
  simp only [Prod.mk.injEq] at hsecond
  obtain ⟨hbacked, hvalued, hstale, hshown⟩ := hsecond
  have hshows : (w₃.service ⟨0⟩).Shows second := by
    refine ⟨hvalued, ?_, [first], [], heq, fun _ hnone => nomatch hnone⟩
    rw [Dictionary.isEmpty_iff.mp hextras, Dictionary.get?_empty]
  exact ⟨w₁, w₂, w₃, hconfigured, hstarted, hset, hservices, hregistered, second, by simp [heq],
    hbacked, hshows, hstale, hshown⟩

end Componentry

import Componentry.Engine.Providing
import Componentry.Proofs.Registry.Memory
import Componentry.Proofs.Run.Returning

/-!
# Which services are offered

A provider offers exactly the services of those declarations that can be accepted, in the
order of the description: a declaration has a specification, the implementation is recorded
with all of its specifications, and the fields of its properties are recorded. An accepted
service has its properties with the recorded types of their fields; a property without name
and field is left out.

What is not accepted leaves nothing behind: the surface shows the specifications and the
properties of the offered services and no others, the component tells the provider of the
writes of their fields, and a provider that offers nothing is not registered.
-/

namespace Componentry

variable {σ : Type}

/-! ## Declarations -/

namespace Element

/-- The declaration of a service can be accepted. -/
structure Acceptable (e : Element) (descriptor : ComponentDescriptor) : Prop where
  specified : ServiceDescriptor.declaredSpecifications e descriptor ≠ []
  implemented : ∀ specification ∈ ServiceDescriptor.declaredSpecifications e descriptor,
    specification ∈ descriptor.interfaces
  recorded : ∀ property ∈ e.childrenNamed "Property", ∀ field ∈ property.attribute? "field",
    (descriptor.fieldType? field).isSome = true

instance (e : Element) (descriptor : ComponentDescriptor) : Decidable (e.Acceptable descriptor) :=
  decidable_of_iff
    (ServiceDescriptor.declaredSpecifications e descriptor ≠ [] ∧
      (∀ specification ∈ ServiceDescriptor.declaredSpecifications e descriptor,
        specification ∈ descriptor.interfaces) ∧
      ∀ property ∈ e.childrenNamed "Property", ∀ field ∈ property.attribute? "field",
        (descriptor.fieldType? field).isSome = true)
    ⟨fun ⟨hspecified, himplemented, hrecorded⟩ => ⟨hspecified, himplemented, hrecorded⟩,
      fun h => ⟨h.specified, h.implemented, h.recorded⟩⟩

/-- The property that an element declares for a service that is offered: its type is the
recorded one of its field, if a field backs it, and else the declared one. -/
def offeredProperty? (e : Element) (descriptor : ComponentDescriptor) (configuration : Properties) :
    Option PropertyDescriptor :=
  ((e.attribute? "name").or (e.attribute? "field")).map fun name =>
    { name := name
      field := e.attribute? "field"
      typeName :=
        match e.attribute? "field" with
        | some field => descriptor.fieldType? field
        | none => e.attribute? "type"
      value := initialText (e.attribute? "name") (e.attribute? "field") (e.attribute? "value")
        configuration }

/-- The service that is offered for a declaration. -/
def offeredService (e : Element) (descriptor : ComponentDescriptor) (configuration : Properties) :
    ServiceDescriptor where
  specifications := ServiceDescriptor.declaredSpecifications e descriptor
  factory := .ofDeclaration (e.attribute? "factory")
  properties :=
    (e.childrenNamed "Property").filterMap (·.offeredProperty? descriptor configuration)

end Element

namespace PropertyDescriptor

/-- The field of the property is recorded, if it has one. -/
def IsRecorded (property : PropertyDescriptor) (descriptor : ComponentDescriptor) : Prop :=
  ∀ field ∈ property.field, (descriptor.fieldType? field).isSome = true

/-- The property with the recorded type of its field. -/
def corrected (property : PropertyDescriptor) (descriptor : ComponentDescriptor) :
    PropertyDescriptor :=
  match property.field with
  | some field => { property with typeName := descriptor.fieldType? field }
  | none => property

/-- A property is read from an element that has a name or a field. -/
theorem ofElement_eq (e : Element) (configuration : Properties) :
    (ofElement e configuration).toOption =
      ((e.attribute? "name").or (e.attribute? "field")).map fun name =>
        ⟨name, e.attribute? "field", e.attribute? "type",
          initialText (e.attribute? "name") (e.attribute? "field") (e.attribute? "value")
            configuration⟩ := by
  cases hname : (e.attribute? "name").or (e.attribute? "field") <;>
    simp [ofElement, make, hname, Except.toOption]

theorem corrected_ofElement (e : Element) (descriptor : ComponentDescriptor)
    (configuration : Properties) :
    ((ofElement e configuration).toOption.map (·.corrected descriptor)) =
      e.offeredProperty? descriptor configuration := by
  rw [ofElement_eq, Element.offeredProperty?, Option.map_map]
  congr 1
  funext name
  cases e.attribute? "field" <;> simp [corrected]

end PropertyDescriptor

namespace ServiceDescriptor

theorem readProperties_fst (className : String) (configuration : Properties)
    (elements : List Element) :
    (readProperties className configuration elements).1 =
      elements.filterMap fun e => (PropertyDescriptor.ofElement e configuration).toOption := by
  induction elements with
  | nil => rfl
  | cons e rest ih =>
      rw [readProperties, List.filterMap_cons, ← ih]
      cases PropertyDescriptor.ofElement e configuration <;> rfl

/-- Properties pass their review if all their fields are recorded. -/
theorem reviewProperties_accepted (descriptor : ComponentDescriptor)
    (properties : List PropertyDescriptor) :
    (reviewProperties descriptor properties).2.1 = true ↔
      ∀ property ∈ properties, property.IsRecorded descriptor := by
  induction properties with
  | nil => simp [reviewProperties]
  | cons property rest ih =>
      rw [List.forall_mem_cons, reviewProperties, PropertyDescriptor.IsRecorded]
      split
      next hfield => simp [hfield, ih]
      next field hfield =>
        split
        next hunknown => simp [hfield, hunknown]
        next real hreal => simp [hfield, hreal, ih]

/-- Properties that pass their review have the types of their fields. -/
theorem reviewProperties_fst {descriptor : ComponentDescriptor} {properties : List PropertyDescriptor}
    (hrecorded : ∀ property ∈ properties, property.IsRecorded descriptor) :
    (reviewProperties descriptor properties).1 = properties.map (·.corrected descriptor) := by
  induction properties with
  | nil => rfl
  | cons property rest ih =>
      obtain ⟨hproperty, hrest⟩ := List.forall_mem_cons.mp hrecorded
      rw [reviewProperties, List.map_cons, ← ih hrest, PropertyDescriptor.corrected]
      cases hfield : property.field with
      | none => rfl
      | some field =>
          obtain ⟨real, hreal⟩ := Option.isSome_iff_exists.mp (hproperty field hfield)
          simp only [hreal]

/-- The fields of the properties that are read are those of their elements. -/
theorem recorded_readProperties_iff (className : String) (configuration : Properties)
    (descriptor : ComponentDescriptor) (elements : List Element) :
    (∀ property ∈ (readProperties className configuration elements).1,
        property.IsRecorded descriptor) ↔
      ∀ e ∈ elements, ∀ field ∈ e.attribute? "field", (descriptor.fieldType? field).isSome = true := by
  simp only [readProperties_fst, List.mem_filterMap, PropertyDescriptor.IsRecorded,
    PropertyDescriptor.ofElement_eq, Option.map_eq_some_iff]
  constructor
  · intro h e he field hfield
    obtain ⟨name, hname⟩ : ∃ name, (e.attribute? "name").or (e.attribute? "field") = some name := by
      rw [hfield]
      cases e.attribute? "name" <;> simp
    exact h _ ⟨e, he, name, hname, rfl⟩ field hfield
  · rintro h property ⟨e, he, name, -, rfl⟩ field hfield
    exact h e he field hfield

/-- A review comes to the properties only if all specifications are implemented. -/
theorem implemented_of_accepted {service : ServiceDescriptor} {descriptor : ComponentDescriptor}
    (haccepted : (service.review descriptor).accepted = true) :
    service.specifications ≠ [] ∧
      ∀ specification ∈ service.specifications, specification ∈ descriptor.interfaces := by
  unfold review at haccepted
  split at haccepted
  next => cases haccepted
  next hspecified =>
    split at haccepted
    next => cases haccepted
    next hall =>
      refine ⟨fun hnone => hspecified (List.isEmpty_iff.mpr hnone), ?_⟩
      intro specification hmem
      simpa [ComponentDescriptor.implements] using List.find?_eq_none.mp hall specification hmem

/-- Where all specifications are implemented, a review is one of the properties. -/
theorem review_of_implemented {service : ServiceDescriptor} {descriptor : ComponentDescriptor}
    (hspecified : service.specifications ≠ [])
    (himplemented : ∀ specification ∈ service.specifications,
      specification ∈ descriptor.interfaces) :
    (service.review descriptor).accepted =
        (reviewProperties descriptor service.properties).2.1 ∧
      (service.review descriptor).service =
        { service with properties := (reviewProperties descriptor service.properties).1 } := by
  have hall : service.specifications.find? (!descriptor.implements ·) = none := by
    rw [List.find?_eq_none]
    intro specification hmem
    simp [ComponentDescriptor.implements, himplemented specification hmem]
  rw [review, if_neg (by simpa using hspecified), hall]
  exact ⟨rfl, rfl⟩

/-- What an element declares is accepted exactly if the element can be. -/
theorem review_accepted_iff (e : Element) (descriptor : ComponentDescriptor)
    (configuration : Properties) :
    ((ofElement e descriptor configuration).1.review descriptor).accepted = true ↔
      e.Acceptable descriptor := by
  have hrecorded := recorded_readProperties_iff descriptor.className configuration descriptor
    (e.childrenNamed "Property")
  rw [← reviewProperties_accepted] at hrecorded
  constructor
  · intro haccepted
    obtain ⟨hspecified, himplemented⟩ := implemented_of_accepted haccepted
    rw [(review_of_implemented hspecified himplemented).1] at haccepted
    exact ⟨hspecified, himplemented, hrecorded.mp haccepted⟩
  · intro hacceptable
    rw [(review_of_implemented hacceptable.specified hacceptable.implemented).1]
    exact hrecorded.mpr hacceptable.recorded

/-- What is accepted is the service that is offered. -/
theorem review_service {e : Element} {descriptor : ComponentDescriptor} {configuration : Properties}
    (hacceptable : e.Acceptable descriptor) :
    ((ofElement e descriptor configuration).1.review descriptor).service =
      e.offeredService descriptor configuration := by
  have hrecorded := (recorded_readProperties_iff descriptor.className configuration descriptor
    (e.childrenNamed "Property")).mpr hacceptable.recorded
  have hproperties : (reviewProperties descriptor (readProperties descriptor.className
      configuration (e.childrenNamed "Property")).1).1 =
        (e.childrenNamed "Property").filterMap (·.offeredProperty? descriptor configuration) := by
    rw [reviewProperties_fst hrecorded, readProperties_fst, List.map_filterMap]
    simp only [PropertyDescriptor.corrected_ofElement]
  rw [(review_of_implemented hacceptable.specified hacceptable.implemented).2]
  simp only [ofElement, Element.offeredService, hproperties]

end ServiceDescriptor

/-! ## The surface -/

/-- What comes last adds itself, unless it has been there before. -/
theorem eraseDups_concat {α : Type} [DecidableEq α] (items : List α) (a : α) :
    (items ++ [a]).eraseDups = if a ∈ items then items.eraseDups else items.eraseDups ++ [a] := by
  rw [List.eraseDups_append]
  split
  next hmem => simp [List.removeAll, hmem]
  next hnew => simp [List.removeAll, hnew, List.eraseDups_cons]

namespace Surface

theorem specifications_foldl_addProperty (surface : Surface) (properties : List SurfaceProperty) :
    (properties.foldl addProperty surface).specifications = surface.specifications := by
  induction properties generalizing surface with
  | nil => rfl
  | cons property rest ih => rw [List.foldl_cons, ih, addProperty]

theorem properties_foldl_addProperty (surface : Surface) (properties : List SurfaceProperty) :
    (properties.foldl addProperty surface).properties = surface.properties ++ properties := by
  induction properties generalizing surface with
  | nil => simp
  | cons property rest ih => simp [ih, addProperty]

theorem properties_foldl_addSpecification (surface : Surface) (specifications : List String) :
    (specifications.foldl addSpecification surface).properties = surface.properties := by
  induction specifications generalizing surface with
  | nil => rfl
  | cons specification rest ih =>
      rw [List.foldl_cons, ih, addSpecification]
      split <;> rfl

/-- Specifications that are added one by one are shown once, where they first occur. -/
theorem specifications_foldl_addSpecification {surface : Surface} {shown : List String}
    (hshown : surface.specifications = shown.eraseDups) (specifications : List String) :
    (specifications.foldl addSpecification surface).specifications =
      (shown ++ specifications).eraseDups := by
  induction specifications generalizing surface shown with
  | nil => simp [hshown]
  | cons specification rest ih =>
      have hadded : (surface.addSpecification specification).specifications =
          (shown ++ [specification]).eraseDups := by
        rw [eraseDups_concat, addSpecification, provides, hshown]
        by_cases hmem : specification ∈ shown
        · simp [hmem, hshown]
        · simp [hmem]
      rw [List.foldl_cons, ih hadded, List.append_assoc, List.singleton_append]

end Surface

/-! ## Offering -/

/-- A surface on which a service is shown besides. -/
def Service.shownOn (service : Service) (surface : Surface) : Surface :=
  service.describe.foldl Surface.addProperty
    (service.specifications.foldl Surface.addSpecification surface)

/-- A handler that is not registered is registered behind all others. -/
theorem Attachment.register_of_not_mem {handler : Handler} {attachments : List Attachment}
    (hnot : handler ∉ attachments.map Attachment.handler) (fields : List String) :
    register handler fields attachments = attachments ++ [⟨handler, fields⟩] := by
  induction attachments with
  | nil => rfl
  | cons attachment rest ih =>
      rw [List.map_cons, List.mem_cons, not_or] at hnot
      rw [register, if_neg (Ne.symm hnot.1), ih hnot.2, List.cons_append]

/-- Services of declarations have been made and shown on the surface of a component, and
nothing else has changed. -/
structure Offers (component : Ref .component) (declarations : List ServiceDescriptor)
    (w : World σ) (services : List (Ref .service)) (w' : World σ) : Prop where
  declared : services.map (fun s => (w'.service s).declared) = declarations
  next : w.nextService.index ≤ w'.nextService.index
  recent : ∀ s ∈ services, s.index < w'.nextService.index
  older : ∀ s : Ref .service, s.index < w.nextService.index → w'.service s = w.service s
  specifications : ∀ shown : List String,
    (w.component component).surface.specifications = shown.eraseDups →
    (w'.component component).surface.specifications =
      (shown ++ declarations.flatMap ServiceDescriptor.specifications).eraseDups
  properties : (w'.component component).surface.properties =
    (w.component component).surface.properties ++
      services.flatMap fun s => (w'.service s).describe
  attachments : (w'.component component).attachments = (w.component component).attachments
  provider : w'.provider = w.provider

namespace Offers

variable {component : Ref .component} {declarations declarations' : List ServiceDescriptor}
  {services services' : List (Ref .service)} {u v w : World σ}

theorem of_platform (hplatform : v.platform = u.platform) : Offers component [] u [] v := by
  obtain ⟨hcomponent, hservice, -, hprovider, -, -⟩ := World.objects_of_platform hplatform
  have hnext : v.nextService = u.nextService := by rw [World.nextService, hplatform]; rfl
  constructor <;> simp [hcomponent, hservice, hprovider, hnext]

theorem changeSurroundings (f : σ → σ) : Offers component [] u [] (u.changeSurroundings f) :=
  of_platform rfl

/-- A service is made and shown. -/
theorem make (service : Service) :
    Offers component [service.declared] u [u.nextService]
      ((u.changeComponent component fun c => { c with surface := service.shownOn c.surface }).addService
        service) := by
  let v := u.changeComponent component fun c => { c with surface := service.shownOn c.surface }
  have hmade : (v.addService service).service u.nextService = service := by
    rw [World.service_addService]
    exact if_pos rfl
  constructor
  · simpa [v] using congrArg Service.declared hmade
  · exact Nat.le_succ _
  · intro s hs
    cases List.mem_singleton.mp hs
    exact Nat.lt_succ_self _
  · intro s hs
    rw [World.service_addService, if_neg]
    · rfl
    · rintro rfl
      exact Nat.lt_irrefl _ hs
  · intro shown hshown
    have hsurface := Surface.specifications_foldl_addSpecification hshown service.specifications
    simpa [Service.shownOn, Surface.specifications_foldl_addProperty, Service.specifications]
      using hsurface
  · rw [List.flatMap_singleton, hmade]
    simp [Service.shownOn, Surface.properties_foldl_addProperty,
      Surface.properties_foldl_addSpecification]
  · simp
  · rfl

theorem trans (huv : Offers component declarations u services v)
    (hvw : Offers component declarations' v services' w) :
    Offers component (declarations ++ declarations') u (services ++ services') w := by
  have hkept : ∀ s ∈ services, w.service s = v.service s := by
    intro s hs
    exact hvw.older s (huv.recent s hs)
  constructor
  · rw [List.map_append, hvw.declared, ← huv.declared]
    congr 1
    apply List.map_congr_left
    intro s hs
    rw [hkept s hs]
  · exact Nat.le_trans huv.next hvw.next
  · intro s hs
    rcases List.mem_append.mp hs with hfirst | hsecond
    · exact Nat.lt_of_lt_of_le (huv.recent s hfirst) hvw.next
    · exact hvw.recent s hsecond
  · intro s hs
    rw [hvw.older s (Nat.lt_of_lt_of_le hs huv.next), huv.older s hs]
  · intro shown hshown
    rw [hvw.specifications _ (huv.specifications shown hshown), List.flatMap_append,
      List.append_assoc]
  · have hdescribed : (services.flatMap fun s => (v.service s).describe) =
        services.flatMap fun s => (w.service s).describe := by
      apply List.flatMap_congr
      intro s hs
      rw [hkept s hs]
    rw [hvw.properties, huv.properties, hdescribed, List.flatMap_append, List.append_assoc]
  · rw [hvw.attachments, huv.attachments]
  · rw [hvw.provider, huv.provider]

end Offers

section Configuring

variable (out : Collaborators σ)

theorem returns_offer (component : Ref .component) (declared : ServiceDescriptor)
    (configuration : Properties) (w : World σ) :
    (Provider.offer out component declared configuration).Returns w fun s w' =>
      Offers component [declared] w [s] w' := by
  simp only [Provider.offer, Component.changeSurface, Run.returns_bind]
  refine (Run.returns_noteAll out _).mono ?_
  intro _ u hplatform
  have hnoted : Offers component [] w [] u := .of_platform hplatform
  rw [Run.returns_changeComponent, Run.returns_addService]
  exact hnoted.trans (.make ((Service.create declared).1.configured configuration))

/-- A provider makes the services of all declarations that can be accepted, in order. -/
theorem returns_offerAll (component : Ref .component) (descriptor : ComponentDescriptor)
    (configuration : Properties) (elements : List Element) (w : World σ) :
    (Provider.offerAll out component descriptor configuration elements).Returns w
      fun services w' => Offers component
        ((elements.filter (·.Acceptable descriptor)).map (·.offeredService descriptor configuration))
        w services w' := by
  induction elements generalizing w with
  | nil => exact (Run.returns_pure _).mpr (.of_platform rfl)
  | cons e rest ih =>
      simp only [Provider.offerAll, Run.returns_bind]
      refine (Run.returns_noteAll out _).mono ?_
      intro _ u hdeclared
      refine (Run.returns_noteAll out _).mono ?_
      intro _ v hreviewed
      have hnoted : Offers component [] w [] v := .of_platform (hreviewed.trans hdeclared)
      by_cases hacceptable : e.Acceptable descriptor
      · rw [if_pos ((ServiceDescriptor.review_accepted_iff e descriptor configuration).mpr
          hacceptable), ServiceDescriptor.review_service hacceptable]
        simp only [Run.returns_bind, Run.returns_pure]
        refine (returns_offer out component _ configuration v).mono ?_
        intro s x hoffer
        refine (ih x).mono ?_
        intro services w' hrest
        have hall := (hnoted.trans hoffer).trans hrest
        simpa [hacceptable] using hall
      · rw [if_neg fun haccepted => hacceptable
          ((ServiceDescriptor.review_accepted_iff e descriptor configuration).mp haccepted)]
        rw [Run.returns_bind, Run.returns_note]
        refine (ih _).mono ?_
        intro services w' hrest
        have hall := (hnoted.trans (.changeSurroundings _)).trans hrest
        simpa [hacceptable] using hall

/-- A handler has been registered with a component, be it for the first time or again. What others
can see of the component and all other objects are as they were. -/
structure Attaches (component : Ref .component) (handler : Handler) (fields : List String)
    (w w' : World σ) : Prop where
  attachments : (w'.component component).attachments =
    Attachment.register handler fields (w.component component).attachments
  surface : (w'.component component).surface = (w.component component).surface
  service : w'.service = w.service
  property : w'.property = w.property
  provider : w'.provider = w.provider
  configurator : w'.configurator = w.configurator

/-- A registration returns, whoever is registered. -/
theorem returns_attaches (component : Ref .component) (handler : Handler) (fields : List String)
    (w : World σ) :
    (Component.attach out component handler fields).Returns w fun _ w' =>
      Attaches component handler fields w w' := by
  simp only [Component.attach, Run.returns_bind, Run.returns_component]
  split
  · rw [Run.returns_bind, Run.returns_note, Run.returns_changeComponent]
    constructor <;> simp
  · rw [Run.returns_changeComponent]
    constructor <;> simp

/-- Registering a further handler puts it behind all others. -/
theorem returns_attach {component : Ref .component} {handler : Handler} {w : World σ}
    (hnot : handler ∉ (w.component component).handlers) (fields : List String) :
    (Component.attach out component handler fields).Returns w fun _ w' =>
      (w'.component component).attachments =
          (w.component component).attachments ++ [⟨handler, fields⟩] ∧
        (w'.component component).surface = (w.component component).surface ∧
        w'.service = w.service ∧ w'.provider = w.provider := by
  refine (returns_attaches out component handler fields w).mono fun _ w' hattached => ?_
  refine ⟨?_, hattached.surface, hattached.service, hattached.provider⟩
  rw [hattached.attachments, Attachment.register_of_not_mem hnot fields]

/-- A provider offers the services of the declarations that can be accepted, in the order of
the description, and nothing of the others. The surface shows their specifications once and
their properties, and the component tells the provider of the writes of their fields. A
provider that offers nothing is not registered. -/
theorem services_offered_iff_acceptable (r : Ref .provider) (component : Ref .component)
    (descriptor : ComponentDescriptor) (configuration : Properties) {w : World σ}
    (hshown : (w.component component).surface.specifications = [])
    (hnot : .provider r ∉ (w.component component).handlers) :
    (Provider.configure out r component descriptor configuration).Returns w fun _ w' =>
      (w'.provider r).services.map (fun s => (w'.service s).declared) =
        ((descriptor.root.childrenNamed "Provides").filter (·.Acceptable descriptor)).map
          (·.offeredService descriptor configuration) ∧
      (w'.component component).surface.specifications =
        ((w'.provider r).services.flatMap fun s => (w'.service s).specifications).eraseDups ∧
      (w'.component component).surface.properties =
        (w.component component).surface.properties ++
          (w'.provider r).services.flatMap (fun s => (w'.service s).describe) ∧
      (w'.component component).attachments =
        (w.component component).attachments ++
          (if (w'.provider r).services = [] then []
          else [⟨.provider r, Provider.fieldsOf ((w'.provider r).services.map w'.service)⟩]) ∧
      (.provider r ∈ (w'.component component).handlers ↔ (w'.provider r).services ≠ []) := by
  simp only [Provider.configure, Run.returns_bind, Run.returns_changeProvider]
  refine (returns_offerAll out component descriptor configuration _ _).mono ?_
  intro services u hoffers
  have hspecifications := hoffers.specifications [] hshown
  have hattachments := hoffers.attachments
  have hkept : ((w.changeProvider r fun _ => ⟨some component, []⟩).component component) =
      w.component component := rfl
  rw [hkept] at hattachments
  by_cases hnone : services = []
  · subst hnone
    have hprovider : (u.provider r).services = [] := by
      rw [hoffers.provider, World.provider_changeProvider, if_pos rfl]
    simp only [List.isEmpty_nil, if_true, Run.returns_pure, hprovider]
    refine ⟨hoffers.declared, ?_, hoffers.properties, ?_, ?_⟩
    · simpa [← hoffers.declared] using hspecifications
    · simpa using hattachments
    · simpa [Component.handlers, hattachments] using hnot
  · rw [if_neg (by simpa using hnone)]
    simp only [Run.returns_bind, Run.returns_mapM_service, Run.returns_note, Run.returns_changeProvider]
    refine (returns_attach out ?_ _).mono ?_
    · simpa [Component.handlers, hattachments] using hnot
    rintro _ w' ⟨hattached, hsurface, hservice, hprovider⟩
    have hheld : (w'.provider r).services = services := by
      rw [hprovider]
      simp
    have hlast : (w'.component component).attachments = (w.component component).attachments ++
        [⟨.provider r, Provider.fieldsOf (services.map u.service)⟩] := by
      simpa [hattachments] using hattached
    rw [hheld, hservice, hsurface, if_neg hnone]
    refine ⟨hoffers.declared, ?_, hoffers.properties, hlast, ?_⟩
    · rw [← hoffers.declared] at hspecifications
      simpa [List.flatMap_map, Service.specifications] using hspecifications
    · simp [Component.handlers, hlast, hnone]

end Configuring

/-! ## An archive -/

/-- A component that declares services of which some cannot be accepted: one that is not
implemented, and one with a field that is not recorded behind one that is. -/
def Component.archive : Component :=
  .create
    (.build "Archive" [("shelf", "int")] ["Reader", "Keeper"]
      [((Element.leaf "Provides").withAttribute "interface" "Keeper, Keeper").withChild
          ((((Element.leaf "Property").withAttribute "field" "shelf").withAttribute "type" "text"
            ).withAttribute "value" "3"),
        (Element.leaf "Provides").withAttribute "interface" "Keeper,Writer",
        ((Element.leaf "Provides").withChild
            (((Element.leaf "Property").withAttribute "field" "shelf").withAttribute "type" "text")
          ).withChild ((Element.leaf "Property").withAttribute "field" "room"),
        ((Element.leaf "Provides").withChild
            (((Element.leaf "Property").withAttribute "name" "hours").withAttribute "type" "text")
          ).withChild ((Element.leaf "Property").withAttribute "value" "nameless")])
    .empty

/-- The archive on a platform of its own. -/
def World.archive (surroundings : σ) : World σ where
  platform :=
    { Platform.ofSettings .standard with components := (Store.empty.add Component.archive).2 }
  surroundings := surroundings

/-- Of the four services of the archive the first and the last are offered. -/
theorem services_offered_iff_acceptable_archive :
    let out : Collaborators Registry :=
      .inMemory id (fun after _ => after) (fun _ registry => registry) fun _ => return .returned
    (Provider.configure out ⟨0⟩ ⟨0⟩ Component.archive.descriptor .empty).Returns
      (.archive Registry.empty) fun _ w' =>
        (w'.provider ⟨0⟩).services.map (fun s => (w'.service s).declared) =
          [⟨["Keeper", "Keeper"], .singleton, [⟨"shelf", some "shelf", some "int", some "3"⟩]⟩,
            ⟨["Reader", "Keeper"], .singleton, [⟨"hours", none, some "text", none⟩]⟩] ∧
        (w'.component ⟨0⟩).surface.specifications = ["Keeper", "Reader"] ∧
        .provider ⟨0⟩ ∈ (w'.component ⟨0⟩).handlers := by
  intro out
  refine (services_offered_iff_acceptable out ⟨0⟩ ⟨0⟩ Component.archive.descriptor .empty
    (w := .archive Registry.empty) (by decide) (by decide)).mono ?_
  rintro _ w' ⟨hdeclared, hspecifications, -, -, hregistered⟩
  have hoffered : ((Component.archive.descriptor.root.childrenNamed "Provides").filter
      (·.Acceptable Component.archive.descriptor)).map
        (·.offeredService Component.archive.descriptor .empty) =
      [⟨["Keeper", "Keeper"], .singleton, [⟨"shelf", some "shelf", some "int", some "3"⟩]⟩,
        ⟨["Reader", "Keeper"], .singleton, [⟨"hours", none, some "text", none⟩]⟩] := by
    decide +kernel
  rw [hoffered] at hdeclared
  refine ⟨hdeclared, ?_, hregistered.mpr ?_⟩
  · have hlists : (w'.provider ⟨0⟩).services.flatMap (fun s => (w'.service s).specifications) =
        ((w'.provider ⟨0⟩).services.map fun s => (w'.service s).declared).flatMap
          ServiceDescriptor.specifications := by
      simp [List.flatMap_map, Service.specifications]
    rw [hspecifications, hlists, hdeclared]
    decide
  · rintro hnone
    simp [hnone] at hdeclared

end Componentry

import Componentry.Proofs.Property.Receiving
import Componentry.Proofs.Service.Acceptance

/-!
# What properties start with

The configurator and the provider read the same elements, each for itself: a configurable
property and a property of a service take a text to begin with, convert it, and are then given
the typed entry of the configuration, if it has one. Which value they come to have is a matter
of the element and of the configuration alone.

The two readings differ in one case. An element without a name is known by its field, and the
configurator looks for its text under that name before it takes the literal; the provider takes
the literal first. And a typed entry counts more than a text, also if it stands under the field
and the text under the name.
-/

namespace Componentry

variable {σ τ : Type}

/-! ## Values -/

/-- The double without the sign of zero. -/
def Double.unsignedZero (x : Double) : Double := if x.isZero then zero false else x

theorem Double.equal_iff (x y : Double) :
    x.equal y = true ↔ x.unsignedZero = y.unsignedZero := by
  have hzero : (zero false).isZero = true := rfl
  unfold equal unsignedZero
  grind

namespace Value

mutual

/-- The value without signs of zeros: equal values are those that become the same. -/
def unsignedZeros : Value → Value
  | double x => double x.unsignedZero
  | list items => list (unsignedZerosItems items)
  | object entries => object (unsignedZerosEntries entries)
  | value => value

def unsignedZerosItems : List Value → List Value
  | [] => []
  | a :: rest => a.unsignedZeros :: unsignedZerosItems rest

def unsignedZerosEntries : List (String × Value) → List (String × Value)
  | [] => []
  | (key, a) :: rest => (key, a.unsignedZeros) :: unsignedZerosEntries rest

end

mutual

theorem equal_iff : (a b : Value) → (a.equal b = true ↔ a.unsignedZeros = b.unsignedZeros)
  | null, b | boolean _, b | integer _, b | text _, b => by
      cases b <;> simp [equal, unsignedZeros]
  | double x, b => by cases b <;> simp [equal, unsignedZeros, Double.equal_iff]
  | list items, b => by
      cases b with
      | list others => simpa [equal, unsignedZeros] using equalItems_iff items others
      | _ => simp [equal, unsignedZeros]
  | object entries, b => by
      cases b with
      | object others => simpa [equal, unsignedZeros] using equalEntries_iff entries others
      | _ => simp [equal, unsignedZeros]

theorem equalItems_iff : (items others : List Value) →
    (equalItems items others = true ↔ unsignedZerosItems items = unsignedZerosItems others)
  | [], others => by cases others <;> simp [equalItems, unsignedZerosItems]
  | a :: rest, others => by
      cases others with
      | nil => simp [equalItems, unsignedZerosItems]
      | cons b others =>
          simp [equalItems, unsignedZerosItems, equal_iff a b, equalItems_iff rest others]

theorem equalEntries_iff : (entries others : List (String × Value)) →
    (equalEntries entries others = true ↔
      unsignedZerosEntries entries = unsignedZerosEntries others)
  | [], others => by cases others <;> simp [equalEntries, unsignedZerosEntries]
  | (key, a) :: rest, others => by
      cases others with
      | nil => simp [equalEntries, unsignedZerosEntries]
      | cons entry others =>
          simp [equalEntries, unsignedZerosEntries, equal_iff a entry.2,
            equalEntries_iff rest others]

end

theorem sameOption_iff (a b : Option Value) :
    sameOption a b = true ↔ a.map unsignedZeros = b.map unsignedZeros := by
  cases a <;> cases b <;> simp [sameOption, equal_iff]

theorem sameOption_symm {a b : Option Value} (h : sameOption a b = true) :
    sameOption b a = true :=
  (sameOption_iff b a).mpr ((sameOption_iff a b).mp h).symm

theorem sameOption_trans {a b c : Option Value} (hab : sameOption a b = true)
    (hbc : sameOption b c = true) : sameOption a c = true :=
  (sameOption_iff a c).mpr (((sameOption_iff a b).mp hab).trans ((sameOption_iff b c).mp hbc))

/-- What a value becomes that is given another one: it stays if the two are equal. -/
def settle (before : Option Value) : Option Value → Option Value
  | some given => if sameOption before (some given) then before else some given
  | none => before

/-- What is given settles the value. -/
theorem settle_some (before : Option Value) (given : Value) :
    sameOption (settle before (some given)) (some given) = true := by
  rw [settle]
  split
  next hsame => exact hsame
  next => exact sameOption_refl _

/-- What a text stands for at a type, if it converts. -/
def converted (typeName : String) (initial : Option String) : Option Value :=
  initial.bind fun raw => (convert typeName raw).toOption

end Value

/-! ## Single properties -/

theorem ConfigurableProperty.value_create (name : String)
    (field initial fieldType : Option String) :
    (create name field initial fieldType).1.value =
      Value.converted (fieldType.getD Value.textTypeName) initial := by
  cases initial with
  | none => rfl
  | some raw =>
      simp only [create, Value.converted, Option.bind_some]
      cases Value.convert (fieldType.getD Value.textTypeName) raw <;> rfl

theorem ConfigurableProperty.name_create (name : String) (field initial fieldType : Option String) :
    (create name field initial fieldType).1.name = name ∧
      (create name field initial fieldType).1.field = field := by
  cases initial with
  | none => exact ⟨rfl, rfl⟩
  | some raw =>
      simp only [create]
      cases Value.convert (fieldType.getD Value.textTypeName) raw <;> exact ⟨rfl, rfl⟩

/-- The property with the typed value that a configuration has for it, if any. -/
def ConfigurableProperty.configured (property : ConfigurableProperty) (configuration : Properties) :
    ConfigurableProperty :=
  match typedEntry property.name property.field configuration with
  | some value => property.assign value
  | none => property

theorem ConfigurableProperty.value_configured (property : ConfigurableProperty)
    (configuration : Properties) :
    (property.configured configuration).value =
      Value.settle property.value (typedEntry property.name property.field configuration) := by
  unfold configured
  split
  next value htyped =>
    rw [htyped, Value.settle, assign_eq, holds]
    split <;> rfl
  next hnone => rw [hnone, Value.settle]

theorem ServiceProperty.value_create (declared : PropertyDescriptor) :
    (create declared).1.value = Value.converted (targetType declared) declared.value := by
  unfold create
  split
  next hnone => rw [hnone, Value.converted, Option.bind_none]
  next raw hraw =>
    rw [hraw, Value.converted, Option.bind_some]
    cases Value.convert (targetType declared) raw <;> rfl

theorem ServiceProperty.value_configured (property : ServiceProperty) (configuration : Properties) :
    (property.configured configuration).value =
      Value.settle property.value
        (typedEntry property.declared.name property.declared.field configuration) := by
  unfold configured
  split
  next value htyped =>
    rw [htyped, Value.settle, assign?]
    split <;> rfl
  next hnone => rw [hnone, Value.settle]

/-! ## Declarations -/

namespace Element

/-- The name of the property that an element declares, if it declares one. -/
def propertyName? (e : Element) : Option String := (e.attribute? "name").or (e.attribute? "field")

/-- The children that declare properties. -/
def propertyElements (e : Element) : List Element :=
  (e.childrenNamed "Property").filter (·.propertyName?.isSome)

/-- The configurable property that an element makes, before it is given a typed entry. -/
def boundProperty? (e : Element) (descriptor : ComponentDescriptor) (configuration : Properties) :
    Option ConfigurableProperty :=
  e.propertyName?.map fun name =>
    (ConfigurableProperty.create name (e.attribute? "field")
      (initialText (some name) (e.attribute? "field") (e.attribute? "value") configuration)
      (Configurator.propertyType? descriptor configuration name (e.attribute? "field"))).1

/-- The configurable property that an element makes under a configuration. -/
def configuredProperty? (e : Element) (descriptor : ComponentDescriptor)
    (configuration : Properties) : Option ConfigurableProperty :=
  (e.boundProperty? descriptor configuration).map (·.configured configuration)

end Element

namespace ComponentDescriptor

/-- The elements that declare configurable properties. -/
def configurableElements (descriptor : ComponentDescriptor) : List Element :=
  (descriptor.root.first? "Properties").elim [] Element.propertyElements

/-- The elements that declare services which can be accepted. -/
def acceptedElements (descriptor : ComponentDescriptor) : List Element :=
  (descriptor.root.childrenNamed "Provides").filter (·.Acceptable descriptor)

end ComponentDescriptor

/-- What is made of the items that make something, at their places. -/
theorem getElem?_filterMap_filter {α β γ : Type} {f : α → Option β} {g : α → Option γ}
    (hsome : ∀ a, (f a).isSome = (g a).isSome) {items : List α} {i : Nat} {a : α} {b : β}
    (ha : (items.filter fun a => (g a).isSome)[i]? = some a) (hb : f a = some b) :
    (items.filterMap f)[i]? = some b := by
  have hmap : (items.filterMap f).map some = (items.filter fun a => (g a).isSome).map f := by
    clear ha
    induction items with
    | nil => rfl
    | cons c rest ih =>
        rw [List.filterMap_cons, List.filter_cons, ← hsome]
        cases hc : f c <;> simp [hc, ih]
  have hplace := congrArg (·[i]?) hmap
  simpa [ha, hb] using hplace

/-! ## Stores -/

/-- New objects have been added to a store under references, and no others have changed. -/
structure Store.Grows {kind : Kind} {α : Type} [Inhabited α] (made : List α) (store : Store kind α)
    (refs : List (Ref kind)) (store' : Store kind α) : Prop where
  read : refs.map store'.get = made
  distinct : refs.Nodup
  next : store.next ≤ store'.next
  recent : ∀ r ∈ refs, store.next ≤ r.index ∧ r.index < store'.next
  older : ∀ r : Ref kind, r.index < store.next → store'.get r = store.get r

namespace Store.Grows

variable {kind : Kind} {α : Type} [Inhabited α] {made made' : List α} {refs refs' : List (Ref kind)}
  {store store' store'' : Store kind α}

theorem refl (store : Store kind α) : Grows [] store [] store := by
  constructor <;> simp

theorem add (store : Store kind α) (a : α) : Grows [a] store [(store.add a).1] (store.add a).2 where
  read := by simp
  distinct := List.nodup_singleton _
  next := Nat.le_succ _
  recent r hr := by
    cases List.mem_singleton.mp hr
    exact ⟨Nat.le_refl _, Nat.lt_succ_self _⟩
  older r hr := by
    rw [Store.get_add, if_neg]
    rintro rfl
    exact Nat.lt_irrefl _ hr

theorem trans (h : Grows made store refs store') (h' : Grows made' store' refs' store'') :
    Grows (made ++ made') store (refs ++ refs') store'' where
  read := by
    rw [List.map_append, h'.read, ← h.read]
    congr 1
    apply List.map_congr_left
    intro r hr
    exact h'.older r (h.recent r hr).2
  distinct := by
    refine List.nodup_append.mpr ⟨h.distinct, h'.distinct, ?_⟩
    rintro r hr _ hr' rfl
    exact Nat.lt_irrefl _ (Nat.lt_of_lt_of_le (h.recent r hr).2 (h'.recent r hr').1)
  next := Nat.le_trans h.next h'.next
  recent r hr := by
    rcases List.mem_append.mp hr with hfirst | hsecond
    · exact ⟨(h.recent r hfirst).1, Nat.lt_of_lt_of_le (h.recent r hfirst).2 h'.next⟩
    · exact ⟨Nat.le_trans h.next (h'.recent r hsecond).1, (h'.recent r hsecond).2⟩
  older r hr := (h'.older r (Nat.lt_of_lt_of_le hr h.next)).trans (h.older r hr)

end Store.Grows

/-! ## Configuring -/

section Configuring

variable (out : Collaborators σ)

theorem Run.returns_addProperty (property : ConfigurableProperty) {w : World σ}
    {post : Ref .property → World σ → Prop} :
    (Run.addProperty property : Run σ (Ref .property)).Returns w post ↔
      post w.nextProperty (w.addProperty property) :=
  (Run.returns_iff ⟨w.nextProperty, w.addProperty property, rfl, trivial⟩).trans
    (Run.ensures_addProperty property)

/-- The services of the declarations that can be accepted are made in order. -/
theorem returns_offerAll_configured (component : Ref .component) (descriptor : ComponentDescriptor)
    (configuration : Properties) (elements : List Element) (w : World σ) :
    (Provider.offerAll out component descriptor configuration elements).Returns w fun refs w' =>
      Store.Grows
        ((elements.filter (·.Acceptable descriptor)).map fun e =>
          (Service.create (e.offeredService descriptor configuration)).1.configured configuration)
        w.platform.services refs w'.platform.services ∧ w'.provider = w.provider := by
  induction elements generalizing w with
  | nil => exact (Run.returns_pure _).mpr ⟨.refl _, rfl⟩
  | cons e rest ih =>
      simp only [Provider.offerAll, Run.returns_bind]
      refine (Run.returns_noteAll out _).mono ?_
      intro _ u hdeclared
      refine (Run.returns_noteAll out _).mono ?_
      intro _ v hreviewed
      have hplatform : v.platform = w.platform := hreviewed.trans hdeclared
      have hprovider : v.provider = w.provider := (World.objects_of_platform hplatform).2.2.2.1
      by_cases hacceptable : e.Acceptable descriptor
      · rw [if_pos ((ServiceDescriptor.review_accepted_iff e descriptor configuration).mpr
          hacceptable), ServiceDescriptor.review_service hacceptable]
        simp only [Provider.offer, Component.changeSurface, Run.returns_bind, Run.returns_pure]
        refine (Run.returns_noteAll out _).mono ?_
        intro _ x hnoted
        rw [Run.returns_changeComponent, Run.returns_addService]
        refine (ih _).mono ?_
        rintro refs w' ⟨hrest, hkept⟩
        have hservices : x.platform.services = w.platform.services := by rw [hnoted, hplatform]
        let service := (Service.create (e.offeredService descriptor configuration)).1.configured
          configuration
        have hmade : Store.Grows [service] w.platform.services [x.nextService]
            (w.platform.services.add service).2 := by
          rw [World.nextService, hservices]
          exact .add _ service
        rw [← hservices] at hmade ⊢
        refine ⟨?_, hkept.trans ?_⟩
        · rw [List.filter_cons_of_pos (by simpa using hacceptable), List.map_cons]
          exact hmade.trans hrest
        · exact (World.objects_of_platform hnoted).2.2.2.1.trans hprovider
      · rw [if_neg fun haccepted => hacceptable
          ((ServiceDescriptor.review_accepted_iff e descriptor configuration).mp haccepted)]
        rw [Run.returns_bind, Run.returns_note]
        refine (ih _).mono ?_
        rintro refs w' ⟨hrest, hkept⟩
        refine ⟨?_, hkept.trans hprovider⟩
        have hservices : v.platform.services = w.platform.services := by rw [hplatform]
        simpa [hacceptable, World.changeSurroundings, hservices] using hrest

/-- A provider that is configured holds the services of the declarations that can be accepted,
with their initial texts converted and the typed entries of the configuration given to them. -/
theorem returns_provider_configured (r : Ref .provider) (component : Ref .component)
    (descriptor : ComponentDescriptor) (configuration : Properties) (w : World σ) :
    (Provider.configure out r component descriptor configuration).Returns w fun _ w' =>
      (w'.provider r).services.map w'.service = descriptor.acceptedElements.map fun e =>
        (Service.create (e.offeredService descriptor configuration)).1.configured configuration := by
  simp only [Provider.configure, Run.returns_bind, Run.returns_changeProvider]
  refine (returns_offerAll_configured out component descriptor configuration _ _).mono ?_
  rintro services u ⟨hgrows, hprovider⟩
  have hread : services.map u.service = _ := hgrows.read
  rw [ComponentDescriptor.acceptedElements, ← hread]
  split
  next hnone =>
    rw [List.isEmpty_iff] at hnone
    subst hnone
    rw [Run.returns_pure, hprovider]
    simp
  next =>
    simp only [Run.returns_bind, Run.returns_mapM_service, Run.returns_note,
      Run.returns_changeProvider]
    refine (returns_attaches out component (.provider r) _ _).mono fun _ w' hattached => ?_
    rw [hattached.service, hattached.provider]
    simp

/-- An element is bound to the property that it makes, if it makes one. -/
theorem returns_bindProperty (r : Ref .configurator) (component : Ref .component)
    (descriptor : ComponentDescriptor) (configuration : Properties) (e : Element) (w : World σ) :
    (Configurator.bindProperty out r component descriptor configuration e).Returns w fun _ w' =>
      ∃ refs, Store.Grows (e.boundProperty? descriptor configuration).toList w.platform.properties
          refs w'.platform.properties ∧
        (w'.configurator r).properties = (w.configurator r).properties ++ refs := by
  simp only [Configurator.bindProperty]
  split
  next hnone =>
    rw [Element.boundProperty?, Element.propertyName?, hnone, Run.returns_note]
    exact ⟨[], .refl _, by simp⟩
  next name hname =>
    rw [Element.boundProperty?, Element.propertyName?, hname]
    simp only [Component.changeSurface, Run.returns_bind]
    refine (Run.returns_noteAll out _).mono ?_
    intro _ u hplatform
    rw [Run.returns_changeComponent, Run.returns_addProperty, Run.returns_changeConfigurator,
      ← hplatform]
    refine ⟨[u.nextProperty], .add u.platform.properties _, ?_⟩
    rw [World.configurator_changeConfigurator, if_pos rfl,
      ← (World.objects_of_platform hplatform).2.2.2.2.1]
    rfl

theorem returns_bindProperties (r : Ref .configurator) (component : Ref .component)
    (descriptor : ComponentDescriptor) (configuration : Properties) (elements : List Element)
    (w : World σ) :
    (elements.forM (Configurator.bindProperty out r component descriptor configuration)).Returns w
      fun _ w' => ∃ refs,
        Store.Grows (elements.filterMap (·.boundProperty? descriptor configuration))
            w.platform.properties refs w'.platform.properties ∧
          (w'.configurator r).properties = (w.configurator r).properties ++ refs := by
  induction elements generalizing w with
  | nil => exact (Run.returns_pure ()).mpr ⟨[], .refl _, by simp⟩
  | cons e rest ih =>
      rw [Run.returns_forM_cons]
      refine (returns_bindProperty out r component descriptor configuration e w).mono ?_
      rintro _ u ⟨bound, hbound, hproperties⟩
      refine (ih u).mono ?_
      rintro _ v ⟨refs, hrefs, hproperties'⟩
      have hmade : (e :: rest).filterMap (·.boundProperty? descriptor configuration) =
          (e.boundProperty? descriptor configuration).toList ++
            rest.filterMap (·.boundProperty? descriptor configuration) := by
        rw [List.filterMap_cons]
        cases e.boundProperty? descriptor configuration <;> rfl
      rw [hmade]
      refine ⟨bound ++ refs, hbound.trans hrefs, ?_⟩
      rw [hproperties', hproperties, List.append_assoc]

theorem returns_injectTyped (configuration : Properties) (r : Ref .property) (w : World σ) :
    (Configurator.injectTyped configuration r).Returns w fun _ w' =>
      w'.configurator = w.configurator ∧ ∀ s, w'.property s =
        if s = r then (w.property r).configured configuration else w.property s := by
  simp only [Configurator.injectTyped, Run.returns_bind, Run.returns_property]
  split
  next value htyped =>
    rw [Run.returns_setProperty, ConfigurableProperty.configured, htyped]
    exact ⟨rfl, fun s => World.property_setProperty w r s _⟩
  next hnone =>
    rw [Run.returns_pure, ConfigurableProperty.configured, hnone]
    refine ⟨rfl, fun s => ?_⟩
    split
    next heq => rw [heq]
    next => rfl

/-- Each of distinct properties is given its typed entry. -/
theorem returns_forM_injectTyped (configuration : Properties) {items : List (Ref .property)}
    (hdistinct : items.Nodup) (w : World σ) :
    (items.forM (Configurator.injectTyped configuration)).Returns w fun _ w' =>
      w'.configurator = w.configurator ∧ ∀ r, w'.property r =
        if r ∈ items then (w.property r).configured configuration else w.property r := by
  induction items generalizing w with
  | nil => exact (Run.returns_pure ()).mpr (by simp)
  | cons r rest ih =>
      obtain ⟨hnot, hrest⟩ := List.nodup_cons.mp hdistinct
      rw [Run.returns_forM_cons]
      refine (returns_injectTyped configuration r w).mono ?_
      rintro _ u ⟨hconfigurator, hproperty⟩
      refine (ih hrest u).mono ?_
      rintro _ v ⟨hconfigurator', hproperty'⟩
      refine ⟨hconfigurator'.trans hconfigurator, fun s => ?_⟩
      rw [hproperty', hproperty]
      by_cases heq : s = r
      · simp [heq, hnot]
      · simp [heq]

/-- A configurator that is configured holds the properties that its elements make. -/
theorem returns_configurator_configured (r : Ref .configurator) (component : Ref .component)
    (descriptor : ComponentDescriptor) (configuration : Properties) (w : World σ) :
    (Configurator.configure out r component descriptor configuration).Returns w fun _ w' =>
      (w'.configurator r).properties.map w'.property =
        (descriptor.root.first? "Properties").elim [] fun declaration =>
          (declaration.childrenNamed "Property").filterMap
            (·.configuredProperty? descriptor configuration) := by
  simp only [Configurator.configure, Run.returns_bind, Run.returns_changeConfigurator]
  split
  next hnone =>
    rw [hnone, Run.returns_pure]
    simp [Configurator.reset]
  next declaration hfound =>
    rw [hfound, Run.returns_bind]
    refine (returns_bindProperties out r component descriptor configuration _ _).mono ?_
    rintro _ u ⟨refs, hgrows, hrefs⟩
    have hread : refs.map u.property = _ := hgrows.read
    have hheld : (u.configurator r).properties = refs := by
      simpa [Configurator.reset] using hrefs
    have hmade : refs.map (fun p => (u.property p).configured configuration) =
        (declaration.childrenNamed "Property").filterMap
          (·.configuredProperty? descriptor configuration) := by
      have hmap := congrArg (List.map (·.configured configuration)) hread
      simpa [List.map_filterMap, Function.comp_def, Element.configuredProperty?] using hmap
    simp only [Run.returns_bind, Run.returns_platform, Run.returns_changeConfigurator,
      Run.returns_configurator]
    simp only [World.configurator_changeConfigurator, if_true, hheld]
    split
    next hempty =>
      rw [List.isEmpty_iff] at hempty
      subst hempty
      rw [Run.returns_pure]
      simpa [hheld] using hmade
    next =>
      rw [Run.returns_bind]
      refine (returns_forM_injectTyped configuration hgrows.distinct _).mono ?_
      rintro _ v ⟨hconfigurator, hproperty⟩
      rw [Run.returns_bind, Run.returns_mapM_property, Run.returns_bind]
      refine (returns_attaches out component (.configurator r) _ v).mono fun _ w' hattached => ?_
      rw [Run.returns_note]
      have hlast : (w'.configurator r).properties = refs := by
        rw [hattached.configurator, hconfigurator]
        simp [hheld]
      have hends : (w'.configurator r).properties.map w'.property =
          refs.map fun p => (u.property p).configured configuration := by
        rw [hlast, hattached.property]
        apply List.map_congr_left
        intro p hp
        rw [hproperty, if_pos hp]
        rfl
      exact hends.trans hmade

/-- What stands at a place among the properties of a configured configurator. -/
theorem returns_configurator_property (r : Ref .configurator) (component : Ref .component)
    {descriptor : ComponentDescriptor} {e : Element} {i : Nat} {name : String}
    (hplace : descriptor.configurableElements[i]? = some e) (hname : e.propertyName? = some name)
    (configuration : Properties) (w : World σ) :
    (Configurator.configure out r component descriptor configuration).Returns w fun _ w' =>
      ∃ p ∈ (w'.configurator r).properties[i]?,
        (w'.property p).value =
          Value.settle
            (Value.converted
              ((Configurator.propertyType? descriptor configuration name
                (e.attribute? "field")).getD Value.textTypeName)
              (initialText (some name) (e.attribute? "field") (e.attribute? "value") configuration))
            (typedEntry name (e.attribute? "field") configuration) := by
  refine (returns_configurator_configured out r component descriptor configuration w).mono ?_
  intro _ w' hread
  have hmade : e.configuredProperty? descriptor configuration =
      some ((ConfigurableProperty.create name (e.attribute? "field")
        (initialText (some name) (e.attribute? "field") (e.attribute? "value") configuration)
        (Configurator.propertyType? descriptor configuration name
          (e.attribute? "field"))).1.configured configuration) := by
    simp [Element.configuredProperty?, Element.boundProperty?, hname]
  have hat : ((w'.configurator r).properties.map w'.property)[i]? =
      e.configuredProperty? descriptor configuration := by
    rw [hread, hmade]
    rw [ComponentDescriptor.configurableElements] at hplace
    cases hfound : descriptor.root.first? "Properties" with
    | none => simp [hfound] at hplace
    | some declaration =>
        rw [hfound] at hplace
        exact getElem?_filterMap_filter
          (fun e => by simp [Element.configuredProperty?, Element.boundProperty?]) hplace hmade
  rw [hmade, List.getElem?_map, Option.map_eq_some_iff] at hat
  obtain ⟨p, hp, hproperty⟩ := hat
  refine ⟨p, hp, ?_⟩
  obtain ⟨hcreated, hcreated'⟩ := ConfigurableProperty.name_create name (e.attribute? "field")
    (initialText (some name) (e.attribute? "field") (e.attribute? "value") configuration)
    (Configurator.propertyType? descriptor configuration name (e.attribute? "field"))
  rw [hproperty, ConfigurableProperty.value_configured, ConfigurableProperty.value_create, hcreated,
    hcreated']

/-- What stands at a place among the properties of a service of a configured provider. -/
theorem returns_provider_property (r : Ref .provider) (component : Ref .component)
    {descriptor : ComponentDescriptor} {declaration e : Element} {j k : Nat} {field name : String}
    (hdeclaration : descriptor.acceptedElements[j]? = some declaration)
    (hplace : declaration.propertyElements[k]? = some e) (hname : e.propertyName? = some name)
    (hfield : e.attribute? "field" = some field) (configuration : Properties) (w : World σ) :
    (Provider.configure out r component descriptor configuration).Returns w fun _ w' =>
      ∃ s ∈ (w'.provider r).services[j]?, ∃ offered ∈ (w'.service s).properties[k]?,
        offered.value =
          Value.settle
            (Value.converted ((descriptor.fieldType? field).getD Value.textTypeName)
              (initialText (e.attribute? "name") (some field) (e.attribute? "value") configuration))
            (typedEntry name (some field) configuration) := by
  refine (returns_provider_configured out r component descriptor configuration w).mono ?_
  intro _ w' hread
  have hat : ((w'.provider r).services.map w'.service)[j]? = some
      ((Service.create (declaration.offeredService descriptor configuration)).1.configured
        configuration) := by
    rw [hread, List.getElem?_map, hdeclaration]
    rfl
  rw [List.getElem?_map, Option.map_eq_some_iff] at hat
  obtain ⟨s, hs, hservice⟩ := hat
  let declared : PropertyDescriptor :=
    ⟨name, some field, descriptor.fieldType? field,
      initialText (e.attribute? "name") (some field) (e.attribute? "value") configuration⟩
  have hoffered : e.offeredProperty? descriptor configuration = some declared := by
    rw [Element.propertyName?] at hname
    rw [Element.offeredProperty?, hname, hfield, Option.map_some]
  have hproperty : (declaration.offeredService descriptor configuration).properties[k]? =
      some declared :=
    getElem?_filterMap_filter (fun e => by simp [Element.offeredProperty?, Element.propertyName?])
      hplace hoffered
  refine ⟨s, hs, (ServiceProperty.create declared).1.configured configuration, ?_, ?_⟩
  · rw [hservice]
    simp [Service.configured, Service.create, hproperty]
  · rw [ServiceProperty.value_configured, ServiceProperty.value_create,
      ServiceProperty.declared_create]
    rfl

end Configuring

/-! ## A mixer -/

namespace Element

/-- A property that is known by its field. -/
def level : Element :=
  ((Element.leaf "Property").withAttribute "field" "level").withAttribute "value" "3"

/-- A property of the same field with a name of its own. -/
def gain : Element := level.withAttribute "name" "gain"

end Element

/-- A component with two properties of one field, which are configurable and shown by its
service. -/
def Component.mixer : Component :=
  .create
    (.build "Mixer" [("level", "int")] ["Meter"]
      [((Element.leaf "Provides").withChild .gain).withChild .level,
        ((Element.leaf "Properties").withChild .gain).withChild .level])
    .empty

/-- The mixer on a platform of its own. -/
def World.mixer : World Unit where
  platform :=
    { Platform.ofSettings .standard with components := (Store.empty.add Component.mixer).2 }
  surroundings := ()

/-- Collaborators that take no part. -/
def Collaborators.silent : Collaborators Unit :=
  .inMemory (fun _ => .empty) (fun _ _ => ()) (fun _ _ => ()) fun _ => return .returned

/-! ## The same element twice -/

/-- The typed entry under a key. -/
def typedUnder (key : String) (configuration : Properties) : Option Value :=
  (configuration.get? key).filter fun value => !value.isTextual

/-- The textual entry under a key. -/
def textUnder (key : String) (configuration : Properties) : Option String :=
  (configuration.get? key).bind Value.text?

theorem typedUnder_eq_none {key text : String} {configuration : Properties}
    (htext : textUnder key configuration = some text) : typedUnder key configuration = none := by
  obtain ⟨value, hvalue, hraw⟩ := Option.bind_eq_some_iff.mp htext
  rw [typedUnder, hvalue]
  cases value <;> first | rfl | cases hraw

section Twice

variable (out : Collaborators σ) (out' : Collaborators τ)

/-- An element with a recorded field makes a configurable property and a property of a service
that start with the same value, except if it has no name, but a literal, and the configuration
has a text under the field: the configurable property starts with the text and the other one
with the literal. -/
theorem same_start_iff (r : Ref .configurator) (q : Ref .provider)
    (component component' : Ref .component) {descriptor descriptor' : ComponentDescriptor}
    {e declaration : Element} {i j k : Nat} {field typeName : String}
    (hfield : e.attribute? "field" = some field)
    (htype : descriptor.fieldType? field = some typeName)
    (htype' : descriptor'.fieldType? field = some typeName)
    (hbound : descriptor.configurableElements[i]? = some e)
    (hdeclaration : descriptor'.acceptedElements[j]? = some declaration)
    (hoffered : declaration.propertyElements[k]? = some e)
    (configuration : Properties) (w : World σ) (w' : World τ) :
    (Configurator.configure out r component descriptor configuration).Returns w fun _ u =>
      (Provider.configure out' q component' descriptor' configuration).Returns w' fun _ v =>
        ∃ p ∈ (u.configurator r).properties[i]?, ∃ s ∈ (v.provider q).services[j]?,
          ∃ offered ∈ (v.service s).properties[k]?,
            (Value.sameOption (u.property p).value offered.value = true ↔
              (e.attribute? "name" = none → ∀ literal ∈ e.attribute? "value",
                ∀ text ∈ textUnder field configuration,
                  Value.sameOption (Value.convert typeName text).toOption
                    (Value.convert typeName literal).toOption = true)) := by
  obtain ⟨name, hname⟩ : ∃ name, e.propertyName? = some name := by
    rw [Element.propertyName?, hfield]
    cases e.attribute? "name" <;> simp
  refine (returns_configurator_property out r component hbound hname configuration w).mono ?_
  rintro _ u ⟨p, hp, hstart⟩
  refine (returns_provider_property out' q component' hdeclaration hoffered hname hfield
    configuration w').mono ?_
  rintro _ v ⟨s, hs, offered, hoffered, hstart'⟩
  refine ⟨p, hp, s, hs, offered, hoffered, ?_⟩
  rw [hstart, hstart', Configurator.propertyType?, hfield, Option.bind_some, htype, htype',
    Option.some_or, Option.getD_some]
  cases hown : e.attribute? "name" with
  | some own =>
      rw [Element.propertyName?, hown, Option.some_or] at hname
      simp [hname]
  | none =>
      rw [Element.propertyName?, hown, hfield, Option.none_or] at hname
      cases hname
      cases hliteral : e.attribute? "value" with
      | none => simp [initialText]
      | some literal =>
          cases htext : textUnder field configuration with
          | none =>
              rw [textUnder] at htext
              simp [initialText, htext]
          | some text =>
              have htyped := typedUnder_eq_none htext
              rw [textUnder] at htext
              rw [typedUnder] at htyped
              simp [initialText, htext, typedEntry, htyped, Value.settle, Value.converted]

/-- The level starts with the same value twice if the text of the configuration and the literal
are ways to write one number. -/
theorem same_start_iff_mixer :
    (Configurator.configure .silent ⟨0⟩ ⟨0⟩ Component.mixer.descriptor
      (.ofList [("level", .text "03")])).Returns .mixer fun _ u =>
        (Provider.configure .silent ⟨0⟩ ⟨0⟩ Component.mixer.descriptor
          (.ofList [("level", .text "03")])).Returns .mixer fun _ v =>
            ∃ p ∈ (u.configurator ⟨0⟩).properties[1]?, ∃ s ∈ (v.provider ⟨0⟩).services[0]?,
              ∃ offered ∈ (v.service s).properties[1]?,
                Value.sameOption (u.property p).value offered.value = true := by
  have hfield : Element.level.attribute? "field" = some "level" := by decide
  have htype : Component.mixer.descriptor.fieldType? "level" = some "int" := by decide
  have hbound : Component.mixer.descriptor.configurableElements[1]? = some .level := by rfl
  refine (same_start_iff .silent .silent ⟨0⟩ ⟨0⟩ ⟨0⟩ ⟨0⟩ hfield htype htype hbound (j := 0) (k := 1)
    (by rfl) (by rfl) (.ofList [("level", .text "03")]) .mixer .mixer).mono ?_
  intro _ u hstarts
  refine hstarts.mono ?_
  rintro _ v ⟨p, hp, s, hs, offered, hoffered, hiff⟩
  exact ⟨p, hp, s, hs, offered, hoffered, hiff.mpr (by decide +kernel)⟩

/-- Otherwise the level starts with two values: the configurable property with that of the
configuration, and the property of the service with its literal. -/
theorem level_starts_apart :
    ∃ u v : World Unit,
      (Configurator.configure .silent ⟨0⟩ ⟨0⟩ Component.mixer.descriptor
        (.ofList [("level", .text "9")])).run .mixer = some ((), u) ∧
      (Provider.configure .silent ⟨0⟩ ⟨0⟩ Component.mixer.descriptor
        (.ofList [("level", .text "9")])).run .mixer = some ((), v) ∧
      (u.configurator ⟨0⟩).properties[1]? = some ⟨1⟩ ∧
      (v.provider ⟨0⟩).services[0]? = some ⟨0⟩ ∧
      Value.sameOption (u.property ⟨1⟩).value
        ((v.service ⟨0⟩).properties[1]?.bind ServiceProperty.value) = false := by
  have hends : ((Configurator.configure .silent ⟨0⟩ ⟨0⟩ Component.mixer.descriptor
      (.ofList [("level", .text "9")])).run .mixer).bind (fun first =>
        ((Provider.configure .silent ⟨0⟩ ⟨0⟩ Component.mixer.descriptor
          (.ofList [("level", .text "9")])).run .mixer).map fun second =>
            decide ((first.2.configurator ⟨0⟩).properties[1]? = some ⟨1⟩ ∧
              (second.2.provider ⟨0⟩).services[0]? = some ⟨0⟩ ∧
              Value.sameOption (first.2.property ⟨1⟩).value
                ((second.2.service ⟨0⟩).properties[1]?.bind ServiceProperty.value) = false)) =
      some true := by
    decide +kernel
  obtain ⟨⟨⟨⟩, u⟩, hrun, hends⟩ := Option.bind_eq_some_iff.mp hends
  obtain ⟨⟨⟨⟩, v⟩, hrun', hfacts⟩ := Option.map_eq_some_iff.mp hends
  exact ⟨u, v, hrun, hrun', of_decide_eq_true hfacts⟩

end Twice

/-! ## Two configurations -/

/-- The value that an entry stands for at a type. -/
def Value.ofEntry (typeName : String) (entry : Value) : Option Value :=
  if entry.isTextual then converted typeName entry.text? else some entry

/-- The values that a property has under two configurations with one entry under its name: that
of the entry under both, unless the entry is textual and there is a typed one under the field. -/
structure Prevails (typeName field : String) (entry : Value) (first second : Properties)
    (value value' : Option Value) : Prop where
  won : (entry.isTextual = true → typedUnder field first = none ∧ typedUnder field second = none) →
    Value.sameOption value (Value.ofEntry typeName entry) = true ∧
      Value.sameOption value' (Value.ofEntry typeName entry) = true ∧
      Value.sameOption value value' = true
  lostFirst : entry.isTextual = true → ∀ typed ∈ typedUnder field first,
    Value.sameOption value (some typed) = true
  lostSecond : entry.isTextual = true → ∀ typed ∈ typedUnder field second,
    Value.sameOption value' (some typed) = true

/-- What a property starts with that has an entry under its name. -/
theorem settle_entry {name typeName typeName' : String} {entry : Value}
    {configuration : Properties} (field : String) (hentry : configuration.get? name = some entry)
    (htype : entry.isTextual = true → typeName' = typeName) (declared : Option String) :
    let value := Value.settle
      (Value.converted typeName' (initialText (some name) (some field) declared configuration))
      (typedEntry name (some field) configuration)
    ((entry.isTextual = true → typedUnder field configuration = none) →
        Value.sameOption value (Value.ofEntry typeName entry) = true) ∧
      (entry.isTextual = true → ∀ typed ∈ typedUnder field configuration,
        Value.sameOption value (some typed) = true) := by
  intro value
  have htyped : typedEntry name (some field) configuration =
      ((some entry).filter fun value => !value.isTextual).or (typedUnder field configuration) := by
    simp only [typedEntry, typedUnder, Option.bind_some, hentry]
  cases htextual : entry.isTextual with
  | false =>
      refine ⟨fun _ => ?_, fun h => by cases h⟩
      simp only [value, htyped, Option.filter_some, htextual, Bool.not_false, if_true,
        Option.some_or, Value.ofEntry, Bool.false_eq_true, if_false]
      exact Value.settle_some _ entry
  | true =>
      have hinitial : initialText (some name) (some field) declared configuration =
          entry.text? := by
        cases entry with
        | text raw => simp [initialText, hentry, Value.text?]
        | _ => cases htextual
      simp only [value, htyped, Option.filter_some, htextual, Bool.not_true, Bool.false_eq_true,
        if_false, Option.none_or, hinitial, htype htextual, Value.ofEntry, if_true]
      constructor
      · intro hnone
        rw [hnone trivial, Value.settle]
        exact Value.sameOption_refl _
      · intro _ typed hmem
        rw [hmem]
        exact Value.settle_some _ typed

/-- Where the entry under the name of a property is the same under two configurations, so are the
values, with one exception. -/
theorem prevails_settle {name field typeName : String} {entry : Value} {first second : Properties}
    (hfirst : first.get? name = some entry) (hsecond : second.get? name = some entry)
    {typeName₁ typeName₂ : String} (htype₁ : entry.isTextual = true → typeName₁ = typeName)
    (htype₂ : entry.isTextual = true → typeName₂ = typeName) (declared : Option String) :
    Prevails typeName field entry first second
      (Value.settle
        (Value.converted typeName₁ (initialText (some name) (some field) declared first))
        (typedEntry name (some field) first))
      (Value.settle
        (Value.converted typeName₂ (initialText (some name) (some field) declared second))
        (typedEntry name (some field) second)) := by
  obtain ⟨hwon, hlost⟩ := settle_entry field hfirst htype₁ declared
  obtain ⟨hwon', hlost'⟩ := settle_entry field hsecond htype₂ declared
  refine ⟨fun hnone => ?_, hlost, hlost'⟩
  have h := hwon fun htextual => (hnone htextual).1
  have h' := hwon' fun htextual => (hnone htextual).2
  exact ⟨h, h', Value.sameOption_trans h (Value.sameOption_symm h')⟩

section Prevailing

variable (out : Collaborators σ)

/-- An entry under the name of a property counts more than one under its field: whatever two
configurations have under the field, the property has the same value under both, that of the
entry under its name. Only if this entry is textual does a typed entry under the field count
more. So it is with configurable properties and with the properties of offered services. -/
theorem name_prevails {descriptor : ComponentDescriptor} {e : Element} {name field : String}
    {entry : Value} {first second : Properties} (hname : e.attribute? "name" = some name)
    (hfield : e.attribute? "field" = some field) (hne : field ≠ name)
    (hagree : ∀ key, key ≠ field → first.get? key = second.get? key)
    (hentry : first.get? name = some entry) (component : Ref .component) (w w' : World σ) :
    (∀ (r : Ref .configurator) (i : Nat), descriptor.configurableElements[i]? = some e →
      (Configurator.configure out r component descriptor first).Returns w fun _ u =>
        (Configurator.configure out r component descriptor second).Returns w' fun _ u' =>
          ∃ p ∈ (u.configurator r).properties[i]?, ∃ p' ∈ (u'.configurator r).properties[i]?,
            Prevails ((descriptor.fieldType? field).getD Value.textTypeName) field entry first
              second (u.property p).value (u'.property p').value) ∧
    ∀ (q : Ref .provider) (j k : Nat) (declaration : Element),
      descriptor.acceptedElements[j]? = some declaration →
      declaration.propertyElements[k]? = some e →
      (Provider.configure out q component descriptor first).Returns w fun _ v =>
        (Provider.configure out q component descriptor second).Returns w' fun _ v' =>
          ∃ s ∈ (v.provider q).services[j]?, ∃ offered ∈ (v.service s).properties[k]?,
          ∃ s' ∈ (v'.provider q).services[j]?, ∃ offered' ∈ (v'.service s').properties[k]?,
            Prevails ((descriptor.fieldType? field).getD Value.textTypeName) field entry first
              second offered.value offered'.value := by
  have hentry' : second.get? name = some entry := by rw [← hagree name (Ne.symm hne), hentry]
  have hproperty : e.propertyName? = some name := by
    rw [Element.propertyName?, hname, Option.some_or]
  constructor
  · intro r i hplace
    refine (returns_configurator_property out r component hplace hproperty first w).mono ?_
    rintro _ u ⟨p, hp, hvalue⟩
    refine (returns_configurator_property out r component hplace hproperty second w').mono ?_
    rintro _ u' ⟨p', hp', hvalue'⟩
    refine ⟨p, hp, p', hp', ?_⟩
    -- The type is that of the field, or else text; only a typed entry brings another one.
    have htype : ∀ configuration : Properties, configuration.get? name = some entry →
        entry.isTextual = true →
        (Configurator.propertyType? descriptor configuration name (some field)).getD
          Value.textTypeName = (descriptor.fieldType? field).getD Value.textTypeName := by
      intro configuration hhas htextual
      simp [Configurator.propertyType?, hhas, htextual, Option.filter_some]
    rw [hvalue, hvalue', hfield]
    exact prevails_settle hentry hentry' (htype first hentry) (htype second hentry') _
  · intro q j k declaration hdeclaration hplace
    refine (returns_provider_property out q component hdeclaration hplace hproperty hfield first
      w).mono ?_
    rintro _ v ⟨s, hs, offered, hoffered, hvalue⟩
    refine (returns_provider_property out q component hdeclaration hplace hproperty hfield second
      w').mono ?_
    rintro _ v' ⟨s', hs', offered', hoffered', hvalue'⟩
    refine ⟨s, hs, offered, hoffered, s', hs', offered', hoffered', ?_⟩
    rw [hvalue, hvalue', hname]
    exact prevails_settle hentry hentry' (fun _ => rfl) (fun _ => rfl) _

end Prevailing

/-- What the configuration has for the gain counts, whatever it has for the level. -/
theorem name_prevails_mixer :
    (Configurator.configure .silent ⟨0⟩ ⟨0⟩ Component.mixer.descriptor
      (.ofList [("gain", .text "5")])).Returns .mixer fun _ u =>
        (Configurator.configure .silent ⟨0⟩ ⟨0⟩ Component.mixer.descriptor
          (.ofList [("gain", .text "5"), ("level", .text "9")])).Returns .mixer fun _ u' =>
            ∃ p ∈ (u.configurator ⟨0⟩).properties[0]?, ∃ p' ∈ (u'.configurator ⟨0⟩).properties[0]?,
              Value.sameOption (u.property p).value (some (.integer 5)) = true ∧
              Value.sameOption (u.property p).value (u'.property p').value = true := by
  have hagree : ∀ key, key ≠ "level" →
      (Dictionary.ofList [("gain", Value.text "5")]).get? key =
        (Dictionary.ofList [("gain", Value.text "5"), ("level", .text "9")]).get? key := by
    intro key hkey
    simp [Dictionary.ofList, Dictionary.insertAll, Dictionary.get?_insert, hkey]
  have hname : Element.gain.attribute? "name" = some "gain" := by decide
  have hfield : Element.gain.attribute? "field" = some "level" := by decide
  have hentry : (Dictionary.ofList [("gain", Value.text "5")]).get? "gain" = some (.text "5") := by
    rfl
  have hplace : Component.mixer.descriptor.configurableElements[0]? = some .gain := by rfl
  refine ((name_prevails .silent hname hfield (by decide) hagree hentry ⟨0⟩ .mixer .mixer).1 ⟨0⟩ 0
    hplace).mono ?_
  intro _ u hsecond
  refine hsecond.mono ?_
  rintro _ u' ⟨p, hp, p', hp', hprevails⟩
  obtain ⟨hwon, -, hsame⟩ := hprevails.won fun _ => ⟨rfl, rfl⟩
  exact ⟨p, hp, p', hp', Value.sameOption_trans hwon (by decide +kernel), hsame⟩

/-- A typed entry for the level counts more than a text for the gain. -/
theorem gain_given_level :
    ∃ u u' : World Unit,
      (Configurator.configure .silent ⟨0⟩ ⟨0⟩ Component.mixer.descriptor
        (.ofList [("gain", .text "1")])).run .mixer = some ((), u) ∧
      (Configurator.configure .silent ⟨0⟩ ⟨0⟩ Component.mixer.descriptor
        (.ofList [("gain", .text "1"), ("level", .integer 2)])).run .mixer = some ((), u') ∧
      (u.configurator ⟨0⟩).properties[0]? = some ⟨0⟩ ∧
      (u'.configurator ⟨0⟩).properties[0]? = some ⟨0⟩ ∧
      Value.sameOption (u.property ⟨0⟩).value (u'.property ⟨0⟩).value = false := by
  have hends : ((Configurator.configure .silent ⟨0⟩ ⟨0⟩ Component.mixer.descriptor
      (.ofList [("gain", .text "1")])).run .mixer).bind (fun first =>
        ((Configurator.configure .silent ⟨0⟩ ⟨0⟩ Component.mixer.descriptor
          (.ofList [("gain", .text "1"), ("level", .integer 2)])).run .mixer).map fun second =>
            decide ((first.2.configurator ⟨0⟩).properties[0]? = some ⟨0⟩ ∧
              (second.2.configurator ⟨0⟩).properties[0]? = some ⟨0⟩ ∧
              Value.sameOption (first.2.property ⟨0⟩).value
                (second.2.property ⟨0⟩).value = false)) = some true := by
    decide +kernel
  obtain ⟨⟨⟨⟩, u⟩, hrun, hends⟩ := Option.bind_eq_some_iff.mp hends
  obtain ⟨⟨⟨⟩, u'⟩, hrun', hfacts⟩ := Option.map_eq_some_iff.mp hends
  exact ⟨u, u', hrun, hrun', of_decide_eq_true hfacts⟩

end Componentry

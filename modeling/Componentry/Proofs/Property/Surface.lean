import Componentry.Engine.Living
import Componentry.Proofs.Handler.Sides
import Componentry.Proofs.Property.Outset

/-!
# What the surface shows

A component that is configured shows the properties of its services and its configurable
properties, in this order. The provider shows a property of a service when it has been given its
typed entry; the configurator shows a configurable property before, when it has just been bound
to its text. So the surface has the names and the types of all properties, and the live values
of the services, but of a configurable property with a typed entry it has the value that the
entry has replaced.
-/

namespace Componentry

variable {σ α : Type}

/-! ## Single properties -/

namespace ConfigurableProperty

theorem name_configured (property : ConfigurableProperty) (configuration : Properties) :
    (property.configured configuration).name = property.name := by
  unfold configured
  split
  next => exact name_assign _ _
  next => rfl

theorem typeName_configured (property : ConfigurableProperty) (configuration : Properties) :
    (property.configured configuration).typeName = property.typeName := by
  unfold configured
  split
  next => exact typeName_assign _ _
  next => rfl

/-- The typed entry of a property, if there is one, is shown like the value before: it is equal
to it, and so left out, or both render alike. -/
def ShownAlike (property : ConfigurableProperty) (configuration : Properties) : Prop :=
  ∀ typed ∈ typedEntry property.name property.field configuration,
    Value.sameOption property.value (some typed) = true ∨
      Value.render typed = Value.renderOption property.value

/-- A typed entry changes what is shown of a property, unless it is shown like the value before. -/
theorem describe_configured_iff (property : ConfigurableProperty) (configuration : Properties) :
    Configurator.describe property = Configurator.describe (property.configured configuration) ↔
      property.ShownAlike configuration := by
  rw [Configurator.describe, Configurator.describe, name_configured, typeName_configured,
    SurfaceProperty.mk.injEq, value_configured, ShownAlike]
  cases typedEntry property.name property.field configuration with
  | none => simp [Value.settle]
  | some typed =>
      simp only [true_and, Value.settle, Option.mem_def, Option.some.injEq, forall_eq']
      by_cases hsame : Value.sameOption property.value (some typed) = true
      · simp [hsame]
      · simp only [hsame, if_false, false_or, Bool.false_eq_true]
        exact eq_comm

end ConfigurableProperty

/-- The configurable properties that the description of a component makes, before they are given
typed entries. -/
def ComponentDescriptor.boundProperties (descriptor : ComponentDescriptor)
    (configuration : Properties) : List ConfigurableProperty :=
  (descriptor.root.first? "Properties").elim [] fun declaration =>
    (declaration.childrenNamed "Property").filterMap (·.boundProperty? descriptor configuration)

/-! ## Steps -/

/-- A component shows further properties; services and providers are as they were. -/
structure Showing (component : Ref .component) (added : List SurfaceProperty) (w w' : World σ) :
    Prop where
  surface : (w'.component component).surface.properties =
    (w.component component).surface.properties ++ added
  service : w'.service = w.service
  provider : w'.provider = w.provider

namespace Showing

variable {component : Ref .component} {added added' : List SurfaceProperty} {w w' w'' : World σ}

theorem of_kept (hcomponent : w'.component = w.component) (hservice : w'.service = w.service)
    (hprovider : w'.provider = w.provider) : Showing component [] w w' :=
  ⟨by rw [hcomponent, List.append_nil], hservice, hprovider⟩

theorem refl (w : World σ) : Showing component [] w w := of_kept rfl rfl rfl

theorem of_platform (hplatform : w'.platform = w.platform) : Showing component [] w w' :=
  let ⟨hcomponent, hservice, _, hprovider, _⟩ := World.objects_of_platform hplatform
  of_kept hcomponent hservice hprovider

theorem of_attaches {handler : Handler} {fields : List String}
    (h : Attaches component handler fields w w') : Showing component [] w w' where
  surface := by rw [h.surface, List.append_nil]
  service := h.service
  provider := h.provider

theorem trans (h : Showing component added w w') (h' : Showing component added' w' w'') :
    Showing component (added ++ added') w w'' where
  surface := by rw [h'.surface, h.surface, List.append_assoc]
  service := h'.service.trans h.service
  provider := h'.provider.trans h.provider

theorem trans_kept (h : Showing component added w w') (h' : Showing component [] w' w'') :
    Showing component added w w'' :=
  List.append_nil added ▸ h.trans h'

end Showing

section Configuring

variable (out : Collaborators σ) {component : Ref .component} {w : World σ}

/-- A loop shows what its turns show. -/
theorem returns_forM_showing {f : α → Run σ Unit} {shown : α → List SurfaceProperty}
    (hturn : ∀ a w, (f a).Returns w fun _ w' => Showing component (shown a) w w') (items : List α)
    (w : World σ) :
    (items.forM f).Returns w fun _ w' => Showing component (items.flatMap shown) w w' := by
  induction items generalizing w with
  | nil => exact (Run.returns_pure ()).mpr (.refl w)
  | cons a rest ih =>
      rw [Run.returns_forM_cons]
      refine (hturn a w).mono fun _ u hfirst => ?_
      refine (ih u).mono fun _ w' hrest => ?_
      exact hfirst.trans hrest

/-- A provider that is configured shows the properties of its services with their live values. -/
theorem returns_provider_shown (q : Ref .provider) (component : Ref .component)
    (descriptor : ComponentDescriptor) (configuration : Properties) (w : World σ) :
    (Provider.configure out q component descriptor configuration).Returns w fun _ w' =>
      (w'.component component).surface.properties =
        (w.component component).surface.properties ++
          ((w'.provider q).services.map w'.service).flatMap Service.describe := by
  simp only [Provider.configure, Run.returns_bind, Run.returns_changeProvider]
  refine (returns_offerAll out component descriptor configuration _ _).mono ?_
  intro services u hoffers
  have hsurface : (u.component component).surface.properties =
      (w.component component).surface.properties ++
        (services.map u.service).flatMap Service.describe := by
    rw [List.flatMap_map]
    exact hoffers.properties
  split
  next hnone =>
    rw [List.isEmpty_iff] at hnone
    subst hnone
    rw [Run.returns_pure, hoffers.provider, World.provider_changeProvider, if_pos rfl]
    exact hsurface
  next =>
    simp only [Run.returns_bind, Run.returns_mapM_service, Run.returns_note,
      Run.returns_changeProvider]
    refine (returns_attaches out _ _ _ _).mono fun _ w' hattached => ?_
    rw [hattached.surface, hattached.service, hattached.provider, World.provider_changeProvider,
      if_pos rfl]
    exact hsurface

/-- A property is shown as it is when it has just been bound. -/
theorem returns_bindProperty_showing (r : Ref .configurator) (descriptor : ComponentDescriptor)
    (configuration : Properties) (e : Element) (w : World σ) :
    (Configurator.bindProperty out r component descriptor configuration e).Returns w fun _ w' =>
      Showing component
        ((e.boundProperty? descriptor configuration).map Configurator.describe).toList w w' := by
  simp only [Configurator.bindProperty]
  split
  next hnone =>
    rw [Element.boundProperty?, Element.propertyName?, hnone, Run.returns_note]
    exact .of_platform rfl
  next name hname =>
    rw [Element.boundProperty?, Element.propertyName?, hname]
    simp only [Component.changeSurface, Run.returns_bind]
    refine (Run.returns_noteAll out _).mono fun _ u hplatform => ?_
    rw [Run.returns_changeComponent, Run.returns_addProperty, Run.returns_changeConfigurator]
    refine (Showing.of_platform hplatform).trans ⟨?_, rfl, rfl⟩
    simp [Surface.addProperty]

theorem returns_injectTyped_showing (component : Ref .component) (configuration : Properties)
    (p : Ref .property) (w : World σ) :
    (Configurator.injectTyped configuration p).Returns w fun _ w' => Showing component [] w w' := by
  simp only [Configurator.injectTyped, Run.returns_bind, Run.returns_property]
  split
  next => exact (Run.returns_setProperty _ _).mpr (.of_kept rfl rfl rfl)
  next => exact (Run.returns_pure ()).mpr (.refl w)

/-- A configurator that is configured shows its properties as they are before they are given
typed entries. -/
theorem returns_configurator_showing (r : Ref .configurator) (component : Ref .component)
    (descriptor : ComponentDescriptor) (configuration : Properties) (w : World σ) :
    (Configurator.configure out r component descriptor configuration).Returns w fun _ w' =>
      Showing component ((descriptor.boundProperties configuration).map Configurator.describe)
        w w' := by
  have hreset : Showing component []
      w (w.changeConfigurator r fun _ => Configurator.reset component) := .of_kept rfl rfl rfl
  simp only [Configurator.configure, Run.returns_bind, Run.returns_changeConfigurator]
  rw [ComponentDescriptor.boundProperties]
  split
  next hnone =>
    rw [hnone]
    exact (Run.returns_pure ()).mpr hreset
  next declaration hfound =>
    rw [hfound, Run.returns_bind]
    refine (returns_forM_showing (returns_bindProperty_showing out r descriptor configuration) _
      _).mono fun _ u hbound => ?_
    have hshown : Showing component
        (((declaration.childrenNamed "Property").filterMap
          (·.boundProperty? descriptor configuration)).map Configurator.describe) w u := by
      rw [List.map_filterMap, List.filterMap_eq_flatMap_toList]
      exact hreset.trans hbound
    simp only [Run.returns_bind, Run.returns_platform, Run.returns_changeConfigurator,
      Run.returns_configurator]
    have hnamed : ∀ f, Showing component [] u (u.changeConfigurator r f) :=
      fun _ => .of_kept rfl rfl rfl
    -- What follows gives the typed entries, behind the last change of the surface.
    split
    next =>
      rw [Run.returns_pure]
      exact hshown.trans_kept (hnamed _)
    next =>
      rw [Run.returns_bind]
      refine (returns_forM_showing (returns_injectTyped_showing component configuration) _ _).mono
        fun _ v hgiven => ?_
      rw [Run.returns_bind, Run.returns_mapM_property, Run.returns_bind]
      refine (returns_attaches out _ _ _ v).mono fun _ x hattached => ?_
      rw [Run.returns_note]
      rw [List.flatMap_eq_nil_iff.mpr fun _ _ => rfl] at hgiven
      exact (((hshown.trans_kept (hnamed _)).trans_kept hgiven).trans_kept
        (.of_attaches hattached)).trans_kept (.of_platform rfl)

/-- The properties of a configurator are those that it has shown, given their typed entries. -/
theorem returns_configurator_live (r : Ref .configurator) (component : Ref .component)
    (descriptor : ComponentDescriptor) (configuration : Properties) (w : World σ) :
    (Configurator.configure out r component descriptor configuration).Returns w fun _ w' =>
      (w'.configurator r).properties.map w'.property =
        (descriptor.boundProperties configuration).map (·.configured configuration) := by
  refine (returns_configurator_configured out r component descriptor configuration w).mono ?_
  intro _ w' hread
  rw [hread, ComponentDescriptor.boundProperties]
  cases descriptor.root.first? "Properties" with
  | none => rfl
  | some declaration => exact (List.map_filterMap ..).symm

/-- A caller shows nothing, and leaves configurable properties alone. -/
theorem returns_caller_showing (k : Ref .caller) (component : Ref .component)
    (descriptor : ComponentDescriptor) (w : World σ) :
    (Caller.configure out k component descriptor).Returns w fun _ w' =>
      Showing component [] w w' ∧ w'.configurator = w.configurator ∧ w'.property = w.property := by
  simp only [Caller.configure, Run.returns_bind, Run.returns_component]
  refine (Run.returns_noteAll out _).mono fun _ u hplatform => ?_
  obtain ⟨-, -, hproperty, -, hconfigurator, -⟩ := World.objects_of_platform hplatform
  have hnoted : Showing component [] w u := .of_platform hplatform
  rw [Run.returns_changeCaller]
  have hread : ∀ f, Showing component [] u (u.changeCaller k f) := fun _ => .of_kept rfl rfl rfl
  split
  next =>
    rw [Run.returns_pure]
    exact ⟨hnoted.trans (hread _), hconfigurator, hproperty⟩
  next =>
    rw [Run.returns_bind]
    refine (returns_attaches out _ _ _ _).mono fun _ v hattached => ?_
    rw [Run.returns_note]
    refine ⟨?_, hattached.configurator.trans hconfigurator, hattached.property.trans hproperty⟩
    exact ((hnoted.trans (hread _)).trans (.of_attaches hattached)).trans (.of_platform rfl)

/-- The handlers of a component are configured one after the other: what the provider holds is
shown as it stays, and what the configurator holds is shown before it is given typed entries. -/
theorem returns_configure_shown (component : Ref .component) (q : Ref .provider)
    (r : Ref .configurator) (k : Ref .caller) (configuration : Properties) (w : World σ) :
    (Component.configure out component [.provider q, .configurator r, .caller k]
      configuration).Returns w fun _ w' =>
        (w'.configurator r).properties.map w'.property =
          ((w.component component).descriptor.boundProperties configuration).map
            (·.configured configuration) ∧
        (w'.component component).surface.properties =
          (w.component component).surface.properties ++
            ((w'.provider q).services.map w'.service).flatMap Service.describe ++
            ((w.component component).descriptor.boundProperties configuration).map
              Configurator.describe := by
  have hheld : (w.hold component).component component =
      { w.component component with holds := (w.component component).holds + 1 } := by
    simp [World.hold]
  simp only [Component.configure, Run.returns_holding, Run.returns_bind, Run.returns_component,
    Run.returns_forM_cons, Handler.configure, hheld]
  refine (returns_provider_shown out q component _ configuration _).mono fun _ u hoffered => ?_
  rw [hheld] at hoffered
  refine ((returns_configurator_showing out r component _ configuration u).and
    (returns_configurator_live out r component _ configuration u)).mono ?_
  rintro _ v ⟨hbound, hlive⟩
  refine (returns_caller_showing out k component _ v).mono ?_
  rintro _ x ⟨hcalled, hconfigurator, hproperty⟩
  refine (Run.returns_pure ()).mpr ?_
  rw [Run.returns_note]
  generalize hends : (x.changeSurroundings _).release component = w'
  have hsurface : (w'.component component).surface = (x.component component).surface := by
    simp [← hends, World.release]
  have hservices : (w'.provider q).services.map w'.service =
      (u.provider q).services.map u.service := by
    rw [← hbound.service, ← hbound.provider, ← hcalled.service, ← hcalled.provider, ← hends]
    rfl
  constructor
  · rw [← hlive, ← hconfigurator, ← hproperty, ← hends]
    rfl
  · rw [hsurface, hcalled.surface, hbound.surface, hoffered, hservices, List.append_nil]

end Configuring

/-! ## All properties -/

/-- The descriptions of the properties that a provider and a configurator hold, with their live
values. -/
def World.described (q : Ref .provider) (r : Ref .configurator) (w : World σ) :
    List SurfaceProperty :=
  ((w.provider q).services.map w.service).flatMap Service.describe ++
    ((w.configurator r).properties.map w.property).map Configurator.describe

/-- A component that is configured with a provider, a configurator and a caller shows besides the
properties of each service with their live values, and then the configurable properties as they
are before they are given typed entries. They have the names and the types of the live ones, in
the same order. So the surface shows the live values exactly if every typed entry of a
configurable property is shown like the value that it replaces. -/
theorem surface_shows_live_values_iff (out : Collaborators σ) (component : Ref .component)
    (q : Ref .provider) (r : Ref .configurator) (k : Ref .caller) (configuration : Properties)
    (w : World σ) :
    (Component.configure out component [.provider q, .configurator r, .caller k]
      configuration).Returns w fun _ w' =>
        let bound := (w.component component).descriptor.boundProperties configuration
        let live := (w'.configurator r).properties.map w'.property
        let before := (w.component component).surface.properties
        let shown := (w'.component component).surface.properties
        live = bound.map (·.configured configuration) ∧
        shown = before ++ ((w'.provider q).services.map w'.service).flatMap Service.describe ++
          bound.map Configurator.describe ∧
        bound.map (fun p => (p.name, p.typeName)) = live.map (fun p => (p.name, p.typeName)) ∧
        (shown = before ++ w'.described q r ↔ ∀ p ∈ bound, p.ShownAlike configuration) := by
  refine (returns_configure_shown out component q r k configuration w).mono ?_
  rintro _ w' ⟨hlive, hshown⟩
  intro bound live before shown
  refine ⟨hlive, hshown, ?_, ?_⟩
  · rw [show live = _ from hlive, List.map_map]
    apply List.map_congr_left
    intro p _
    rw [Function.comp_apply, ConfigurableProperty.name_configured,
      ConfigurableProperty.typeName_configured]
  · have hdescribed : before ++ w'.described q r =
        before ++ ((w'.provider q).services.map w'.service).flatMap Service.describe ++
          (bound.map (·.configured configuration)).map Configurator.describe := by
      rw [World.described, hlive, List.append_assoc]
    rw [show shown = _ from hshown, hdescribed, List.append_right_inj, List.map_map,
      List.map_inj_left]
    simp only [Function.comp_apply, ConfigurableProperty.describe_configured_iff, bound]

/-- The level of the mixer is given the number five, but the surface shows the three of its text,
twice since two configurable properties have the field. The service shows the number. -/
theorem surface_shows_replaced_level :
    ∃ w' : World Unit,
      (Component.configure .silent ⟨0⟩ [.provider ⟨0⟩, .configurator ⟨0⟩, .caller ⟨0⟩]
        (.ofList [("level", .integer 5)])).run .mixer = some ((), w') ∧
      (w'.component ⟨0⟩).surface.properties =
        [⟨"gain", some "int", "5"⟩, ⟨"level", some "int", "5"⟩, ⟨"gain", some "int", "3"⟩,
          ⟨"level", some "int", "3"⟩] ∧
      w'.described ⟨0⟩ ⟨0⟩ =
        [⟨"gain", some "int", "5"⟩, ⟨"level", some "int", "5"⟩, ⟨"gain", some "int", "5"⟩,
          ⟨"level", some "int", "5"⟩] := by
  have hends : ((Component.configure .silent ⟨0⟩ [.provider ⟨0⟩, .configurator ⟨0⟩, .caller ⟨0⟩]
      (.ofList [("level", .integer 5)])).run .mixer).map (fun ends =>
        decide ((ends.2.component ⟨0⟩).surface.properties =
            [⟨"gain", some "int", "5"⟩, ⟨"level", some "int", "5"⟩, ⟨"gain", some "int", "3"⟩,
              ⟨"level", some "int", "3"⟩] ∧
          ends.2.described ⟨0⟩ ⟨0⟩ =
            [⟨"gain", some "int", "5"⟩, ⟨"level", some "int", "5"⟩, ⟨"gain", some "int", "5"⟩,
              ⟨"level", some "int", "5"⟩])) = some true := by
    decide +kernel
  obtain ⟨⟨⟨⟩, w'⟩, hrun, hfacts⟩ := Option.map_eq_some_iff.mp hends
  exact ⟨w', hrun, of_decide_eq_true hfacts⟩

end Componentry

import Componentry.Engine.Run

/-!
# Outcomes of runs

`m.Ensures w post` says that whatever `m` returns from the world `w` satisfies `post`,
together with the world that it leaves. Nothing is said where `m` gives up. The laws
follow the structure of a run, so that a claim about an operation unfolds into claims
about its steps.

A world is read and changed object by object: `World.service`, `World.setService` and
so on. A change of one object is seen in no other.
-/

namespace Componentry

variable {σ α β : Type}

namespace World

/-- The component of a reference. -/
def component (w : World σ) (r : Ref .component) : Component := w.platform.components.get r

/-- The service of a reference. -/
def service (w : World σ) (r : Ref .service) : Service := w.platform.services.get r

/-- The configurable property of a reference. -/
def property (w : World σ) (r : Ref .property) : ConfigurableProperty :=
  w.platform.properties.get r

/-- The provider of a reference. -/
def provider (w : World σ) (r : Ref .provider) : Provider := w.platform.providers.get r

/-- The configurator of a reference. -/
def configurator (w : World σ) (r : Ref .configurator) : Configurator :=
  w.platform.configurators.get r

/-- The caller of a reference. -/
def caller (w : World σ) (r : Ref .caller) : Caller := w.platform.callers.get r

/-- The world with a changed platform. -/
def changePlatform (w : World σ) (f : Platform → Platform) : World σ :=
  { w with platform := f w.platform }

/-- The world with changed surroundings. -/
def changeSurroundings (w : World σ) (f : σ → σ) : World σ :=
  { w with surroundings := f w.surroundings }

/-- The world with a changed component. -/
def changeComponent (w : World σ) (r : Ref .component) (f : Component → Component) : World σ :=
  w.changePlatform fun p => { p with components := p.components.modify r f }

/-- The world with another service under a reference. -/
def setService (w : World σ) (r : Ref .service) (service : Service) : World σ :=
  w.changePlatform fun p => { p with services := p.services.set r service }

/-- The world in which a service holds another registration, or none. -/
def setRegistration (w : World σ) (r : Ref .service) (registration : Option Registration) :
    World σ :=
  w.setService r { w.service r with registration := registration }

/-- The world with another configurable property under a reference. -/
def setProperty (w : World σ) (r : Ref .property) (property : ConfigurableProperty) : World σ :=
  w.changePlatform fun p => { p with properties := p.properties.set r property }

/-- The world with a changed provider. -/
def changeProvider (w : World σ) (r : Ref .provider) (f : Provider → Provider) : World σ :=
  w.changePlatform fun p => { p with providers := p.providers.modify r f }

/-- The world with a changed configurator. -/
def changeConfigurator (w : World σ) (r : Ref .configurator)
    (f : Configurator → Configurator) : World σ :=
  w.changePlatform fun p => { p with configurators := p.configurators.modify r f }

/-- The world with a changed caller. -/
def changeCaller (w : World σ) (r : Ref .caller) (f : Caller → Caller) : World σ :=
  w.changePlatform fun p => { p with callers := p.callers.modify r f }

/-- The reference that the next service gets. -/
def nextService (w : World σ) : Ref .service := ⟨w.platform.services.next⟩

/-- The reference that the next configurable property gets. -/
def nextProperty (w : World σ) : Ref .property := ⟨w.platform.properties.next⟩

/-- The world with a new service. -/
def addService (w : World σ) (service : Service) : World σ :=
  w.changePlatform fun p => { p with services := (p.services.add service).2 }

/-- The world with a new configurable property. -/
def addProperty (w : World σ) (property : ConfigurableProperty) : World σ :=
  w.changePlatform fun p => { p with properties := (p.properties.add property).2 }

section Reading

variable (w : World σ)

@[simp] theorem component_changeComponent (r s : Ref .component) (f : Component → Component) :
    (w.changeComponent r f).component s = if s = r then f (w.component r) else w.component s := by
  simp [changeComponent, changePlatform, component, Store.modify]

/-- What a change of a component leaves, it leaves of all components. -/
theorem component_changeComponent_same {β : Type} (g : Component → β) {f : Component → Component}
    (hsame : ∀ c, g (f c) = g c) (r s : Ref .component) :
    g ((w.changeComponent r f).component s) = g (w.component s) := by
  rw [component_changeComponent]
  split
  next heq => rw [heq, hsame]
  next => rfl

@[simp] theorem service_setService (r s : Ref .service) (service : Service) :
    (w.setService r service).service s = if s = r then service else w.service s := by
  simp [setService, changePlatform, World.service]

@[simp] theorem property_setProperty (r s : Ref .property) (property : ConfigurableProperty) :
    (w.setProperty r property).property s = if s = r then property else w.property s := by
  simp [setProperty, changePlatform, World.property]

@[simp] theorem provider_changeProvider (r s : Ref .provider) (f : Provider → Provider) :
    (w.changeProvider r f).provider s = if s = r then f (w.provider r) else w.provider s := by
  simp [changeProvider, changePlatform, provider, Store.modify]

@[simp] theorem configurator_changeConfigurator (r s : Ref .configurator)
    (f : Configurator → Configurator) :
    (w.changeConfigurator r f).configurator s =
      if s = r then f (w.configurator r) else w.configurator s := by
  simp [changeConfigurator, changePlatform, configurator, Store.modify]

/-- What a change of a configurator leaves, it leaves of all configurators. -/
theorem configurator_changeConfigurator_same {β : Type} (g : Configurator → β)
    {f : Configurator → Configurator} (hsame : ∀ c, g (f c) = g c) (r s : Ref .configurator) :
    g ((w.changeConfigurator r f).configurator s) = g (w.configurator s) := by
  rw [configurator_changeConfigurator]
  split
  next heq => rw [heq, hsame]
  next => rfl

@[simp] theorem caller_changeCaller (r s : Ref .caller) (f : Caller → Caller) :
    (w.changeCaller r f).caller s = if s = r then f (w.caller r) else w.caller s := by
  simp [changeCaller, changePlatform, caller, Store.modify]

@[simp] theorem surroundings_changeSurroundings (f : σ → σ) :
    (w.changeSurroundings f).surroundings = f w.surroundings := rfl

@[simp] theorem changeSurroundings_frame (f : σ → σ) :
    (w.changeSurroundings f).platform = w.platform ∧
      (w.changeSurroundings f).component = w.component ∧
      (w.changeSurroundings f).service = w.service ∧
      (w.changeSurroundings f).property = w.property ∧
      (w.changeSurroundings f).provider = w.provider ∧
      (w.changeSurroundings f).configurator = w.configurator ∧
      (w.changeSurroundings f).caller = w.caller :=
  ⟨rfl, rfl, rfl, rfl, rfl, rfl, rfl⟩

@[simp] theorem changeComponent_frame (r : Ref .component) (f : Component → Component) :
    (w.changeComponent r f).surroundings = w.surroundings ∧
      (w.changeComponent r f).service = w.service ∧
      (w.changeComponent r f).property = w.property ∧
      (w.changeComponent r f).provider = w.provider ∧
      (w.changeComponent r f).configurator = w.configurator ∧
      (w.changeComponent r f).caller = w.caller :=
  ⟨rfl, rfl, rfl, rfl, rfl, rfl⟩

@[simp] theorem setService_frame (r : Ref .service) (service : Service) :
    (w.setService r service).surroundings = w.surroundings ∧
      (w.setService r service).component = w.component ∧
      (w.setService r service).property = w.property ∧
      (w.setService r service).provider = w.provider ∧
      (w.setService r service).configurator = w.configurator ∧
      (w.setService r service).caller = w.caller :=
  ⟨rfl, rfl, rfl, rfl, rfl, rfl⟩

@[simp] theorem setProperty_frame (r : Ref .property) (property : ConfigurableProperty) :
    (w.setProperty r property).surroundings = w.surroundings ∧
      (w.setProperty r property).component = w.component ∧
      (w.setProperty r property).service = w.service ∧
      (w.setProperty r property).provider = w.provider ∧
      (w.setProperty r property).configurator = w.configurator ∧
      (w.setProperty r property).caller = w.caller :=
  ⟨rfl, rfl, rfl, rfl, rfl, rfl⟩

@[simp] theorem changeProvider_frame (r : Ref .provider) (f : Provider → Provider) :
    (w.changeProvider r f).surroundings = w.surroundings ∧
      (w.changeProvider r f).component = w.component ∧
      (w.changeProvider r f).service = w.service ∧
      (w.changeProvider r f).property = w.property ∧
      (w.changeProvider r f).configurator = w.configurator ∧
      (w.changeProvider r f).caller = w.caller :=
  ⟨rfl, rfl, rfl, rfl, rfl, rfl⟩

@[simp] theorem service_addService (r : Ref .service) (service : Service) :
    (w.addService service).service r = if r = w.nextService then service else w.service r :=
  Store.get_add w.platform.services r service

@[simp] theorem addService_frame (service : Service) :
    (w.addService service).surroundings = w.surroundings ∧
      (w.addService service).component = w.component ∧
      (w.addService service).property = w.property ∧
      (w.addService service).provider = w.provider ∧
      (w.addService service).configurator = w.configurator ∧
      (w.addService service).caller = w.caller :=
  ⟨rfl, rfl, rfl, rfl, rfl, rfl⟩

@[simp] theorem property_addProperty (r : Ref .property) (property : ConfigurableProperty) :
    (w.addProperty property).property r = if r = w.nextProperty then property else w.property r :=
  Store.get_add w.platform.properties r property

@[simp] theorem addProperty_frame (property : ConfigurableProperty) :
    (w.addProperty property).surroundings = w.surroundings ∧
      (w.addProperty property).component = w.component ∧
      (w.addProperty property).service = w.service ∧
      (w.addProperty property).provider = w.provider ∧
      (w.addProperty property).configurator = w.configurator ∧
      (w.addProperty property).caller = w.caller :=
  ⟨rfl, rfl, rfl, rfl, rfl, rfl⟩

@[simp] theorem changeConfigurator_frame (r : Ref .configurator)
    (f : Configurator → Configurator) :
    (w.changeConfigurator r f).surroundings = w.surroundings ∧
      (w.changeConfigurator r f).component = w.component ∧
      (w.changeConfigurator r f).service = w.service ∧
      (w.changeConfigurator r f).property = w.property ∧
      (w.changeConfigurator r f).provider = w.provider ∧
      (w.changeConfigurator r f).caller = w.caller :=
  ⟨rfl, rfl, rfl, rfl, rfl, rfl⟩

@[simp] theorem changeCaller_frame (r : Ref .caller) (f : Caller → Caller) :
    (w.changeCaller r f).surroundings = w.surroundings ∧
      (w.changeCaller r f).component = w.component ∧
      (w.changeCaller r f).service = w.service ∧
      (w.changeCaller r f).property = w.property ∧
      (w.changeCaller r f).provider = w.provider ∧
      (w.changeCaller r f).configurator = w.configurator :=
  ⟨rfl, rfl, rfl, rfl, rfl, rfl⟩

end Reading

theorem setService_platform {u v : World σ} (hplatform : v.platform = u.platform)
    (r : Ref .service) (service : Service) :
    (v.setService r service).platform = (u.setService r service).platform := by
  rw [setService, setService, changePlatform, changePlatform, hplatform]

/-- Worlds with one platform have the same objects. -/
theorem objects_of_platform {u v : World σ} (hplatform : v.platform = u.platform) :
    v.component = u.component ∧ v.service = u.service ∧ v.property = u.property ∧
      v.provider = u.provider ∧ v.configurator = u.configurator ∧ v.caller = u.caller := by
  obtain ⟨platform, surroundings⟩ := v
  cases hplatform
  exact ⟨rfl, rfl, rfl, rfl, rfl, rfl⟩

end World

namespace Run

/-- Whatever the run returns from a world satisfies a condition, together with the
world that it leaves. -/
def Ensures (m : Run σ α) (w : World σ) (post : α → World σ → Prop) : Prop :=
  ∀ a w', m.run w = some (a, w') → post a w'

variable {w : World σ} {post : α → World σ → Prop}

theorem Ensures.mono {m : Run σ α} {post' : α → World σ → Prop} (h : m.Ensures w post)
    (himp : ∀ a w', post a w' → post' a w') : m.Ensures w post' :=
  fun a w' hrun => himp a w' (h a w' hrun)

theorem Ensures.and {m : Run σ α} {post' : α → World σ → Prop} (h : m.Ensures w post)
    (h' : m.Ensures w post') : m.Ensures w fun a w' => post a w' ∧ post' a w' :=
  fun a w' hrun => ⟨h a w' hrun, h' a w' hrun⟩

@[simp] theorem ensures_giveUp : (giveUp : Run σ α).Ensures w post := by
  intro a w' hrun
  cases hrun

@[simp] theorem ensures_pure (a : α) : (pure a : Run σ α).Ensures w post ↔ post a w := by
  constructor
  · intro h
    exact h a w rfl
  · rintro h a' w' hrun
    cases hrun
    exact h

@[simp] theorem ensures_bind (m : Run σ β) (f : β → Run σ α) :
    (m >>= f).Ensures w post ↔ m.Ensures w fun b w' => (f b).Ensures w' post := by
  constructor
  · intro h b w' hm a w'' hf
    apply h a w''
    rw [StateT.run_bind, hm]
    exact hf
  · intro h a w'' hrun
    rw [StateT.run_bind] at hrun
    obtain ⟨⟨b, w'⟩, hm, hf⟩ := Option.bind_eq_some_iff.mp hrun
    exact h b w' hm a w'' hf

@[simp] theorem ensures_map (f : β → α) (m : Run σ β) :
    (f <$> m).Ensures w post ↔ m.Ensures w fun b w' => post (f b) w' := by
  rw [map_eq_pure_bind, ensures_bind]
  simp only [ensures_pure]

theorem ensures_get {post : World σ → World σ → Prop} :
    (get : Run σ (World σ)).Ensures w post ↔ post w w := by
  constructor
  · intro h
    exact h w w rfl
  · rintro h a' w' hrun
    cases hrun
    exact h

theorem ensures_modify (f : World σ → World σ) {post : PUnit → World σ → Prop} :
    (modify f : Run σ PUnit).Ensures w post ↔ post ⟨⟩ (f w) := by
  constructor
  · intro h
    exact h _ _ rfl
  · rintro h a' w' hrun
    cases hrun
    exact h

@[simp] theorem ensures_platform {post : Platform → World σ → Prop} :
    (platform : Run σ Platform).Ensures w post ↔ post w.platform w := by
  simp only [platform, ensures_bind, ensures_get, ensures_pure]

@[simp] theorem ensures_surroundings {post : σ → World σ → Prop} :
    (surroundings : Run σ σ).Ensures w post ↔ post w.surroundings w := by
  simp only [surroundings, ensures_bind, ensures_get, ensures_pure]

section Changes

variable {post : Unit → World σ → Prop}

@[simp] theorem ensures_changePlatform (f : Platform → Platform) :
    (changePlatform f : Run σ Unit).Ensures w post ↔ post () (w.changePlatform f) :=
  ensures_modify _

@[simp] theorem ensures_changeSurroundings (f : σ → σ) :
    (changeSurroundings f : Run σ Unit).Ensures w post ↔ post () (w.changeSurroundings f) :=
  ensures_modify _

@[simp] theorem ensures_changeComponent (r : Ref .component) (f : Component → Component) :
    (changeComponent r f : Run σ Unit).Ensures w post ↔ post () (w.changeComponent r f) :=
  ensures_modify _

@[simp] theorem ensures_setService (r : Ref .service) (service : Service) :
    (setService r service : Run σ Unit).Ensures w post ↔ post () (w.setService r service) :=
  ensures_modify _

@[simp] theorem ensures_setProperty (r : Ref .property) (property : ConfigurableProperty) :
    (setProperty r property : Run σ Unit).Ensures w post ↔ post () (w.setProperty r property) :=
  ensures_modify _

@[simp] theorem ensures_changeProvider (r : Ref .provider) (f : Provider → Provider) :
    (changeProvider r f : Run σ Unit).Ensures w post ↔ post () (w.changeProvider r f) :=
  ensures_modify _

@[simp] theorem ensures_changeConfigurator (r : Ref .configurator)
    (f : Configurator → Configurator) :
    (changeConfigurator r f : Run σ Unit).Ensures w post ↔
      post () (w.changeConfigurator r f) :=
  ensures_modify _

@[simp] theorem ensures_changeCaller (r : Ref .caller) (f : Caller → Caller) :
    (changeCaller r f : Run σ Unit).Ensures w post ↔ post () (w.changeCaller r f) :=
  ensures_modify _

@[simp] theorem ensures_addService (service : Service)
    {post : Ref .service → World σ → Prop} :
    (addService service : Run σ (Ref .service)).Ensures w post ↔
      post w.nextService (w.addService service) := by
  simp only [addService, ensures_bind, ensures_platform, ensures_changePlatform, ensures_pure]
  rfl

@[simp] theorem ensures_addProperty (property : ConfigurableProperty)
    {post : Ref .property → World σ → Prop} :
    (addProperty property : Run σ (Ref .property)).Ensures w post ↔
      post (w.platform.properties.add property).1 (w.addProperty property) := by
  simp only [addProperty, ensures_bind, ensures_platform, ensures_changePlatform, ensures_pure]
  rfl

@[simp] theorem ensures_note (out : Collaborators σ) (record : Log.Record) :
    (out.note record).Ensures w post ↔ post () (w.changeSurroundings (out.log record)) :=
  ensures_modify _

@[simp] theorem ensures_tell (out : Collaborators σ) (event : Event) :
    (out.tell event).Ensures w post ↔ post () (w.changeSurroundings (out.announce event)) :=
  ensures_modify _

end Changes

@[simp] theorem ensures_component (r : Ref .component) {post : Component → World σ → Prop} :
    (component r : Run σ Component).Ensures w post ↔ post (w.component r) w := by
  simp only [component, ensures_bind, ensures_platform, ensures_pure]
  rfl

@[simp] theorem ensures_service (r : Ref .service) {post : Service → World σ → Prop} :
    (service r : Run σ Service).Ensures w post ↔ post (w.service r) w := by
  simp only [service, ensures_bind, ensures_platform, ensures_pure]
  rfl

@[simp] theorem ensures_property (r : Ref .property)
    {post : ConfigurableProperty → World σ → Prop} :
    (property r : Run σ ConfigurableProperty).Ensures w post ↔ post (w.property r) w := by
  simp only [property, ensures_bind, ensures_platform, ensures_pure]
  rfl

@[simp] theorem ensures_provider (r : Ref .provider) {post : Provider → World σ → Prop} :
    (provider r : Run σ Provider).Ensures w post ↔ post (w.provider r) w := by
  simp only [provider, ensures_bind, ensures_platform, ensures_pure]
  rfl

@[simp] theorem ensures_configurator (r : Ref .configurator)
    {post : Configurator → World σ → Prop} :
    (configurator r : Run σ Configurator).Ensures w post ↔ post (w.configurator r) w := by
  simp only [configurator, ensures_bind, ensures_platform, ensures_pure]
  rfl

@[simp] theorem ensures_caller (r : Ref .caller) {post : Caller → World σ → Prop} :
    (caller r : Run σ Caller).Ensures w post ↔ post (w.caller r) w := by
  simp only [caller, ensures_bind, ensures_platform, ensures_pure]
  rfl

/-- Logging changes nothing on the platform. -/
theorem ensures_noteAll (out : Collaborators σ) (records : List Log.Record) :
    (out.noteAll records).Ensures w fun _ w' => w'.platform = w.platform := by
  induction records generalizing w with
  | nil => exact (ensures_pure _).mpr rfl
  | cons record rest ih =>
      refine (ensures_bind (out.note record) fun _ => out.noteAll rest).mpr ?_
      rw [ensures_note]
      exact ih

/-! ## Loops -/

theorem ensures_forM_cons (f : α → Run σ Unit) (a : α) (rest : List α)
    {post : Unit → World σ → Prop} :
    ((a :: rest).forM f).Ensures w post ↔ (f a).Ensures w fun _ w' => (rest.forM f).Ensures w' post :=
  ensures_bind (f a) fun _ => rest.forM f

/-- What every turn of a loop keeps, the loop keeps. -/
theorem ensures_forM (kept : World σ → Prop) {f : α → Run σ Unit} {items : List α}
    (hturn : ∀ a ∈ items, ∀ w, kept w → (f a).Ensures w fun _ => kept) (hw : kept w) :
    (items.forM f).Ensures w fun _ => kept := by
  induction items generalizing w with
  | nil => exact (ensures_pure _).mpr hw
  | cons a rest ih =>
      rw [ensures_forM_cons]
      refine (hturn a List.mem_cons_self w hw).mono ?_
      intro _ w' hw'
      exact ih (fun b hb => hturn b (List.mem_cons_of_mem a hb)) hw'

/-- A loop whose turns keep a condition and reach something for their item, which the
later turns do not undo, reaches it for all items. -/
theorem ensures_forM_reached (kept : World σ → Prop) (reached : α → World σ → Prop)
    {f : α → Run σ Unit} {items : List α}
    (hturn : ∀ a ∈ items, ∀ w, kept w →
      (f a).Ensures w fun _ w' => kept w' ∧ reached a w' ∧
        ∀ b ∈ items, reached b w → reached b w')
    (hw : kept w) :
    (items.forM f).Ensures w fun _ w' => kept w' ∧ ∀ a ∈ items, reached a w' := by
  suffices ∀ rest : List α, (∀ a ∈ rest, a ∈ items) → ∀ w, kept w →
      (∀ a ∈ items, a ∉ rest → reached a w) →
      (rest.forM f).Ensures w fun _ w' => kept w' ∧ ∀ a ∈ items, reached a w' from
    this items (fun a ha => ha) w hw fun a ha hnot => absurd ha hnot
  -- Induction over the items ahead; what is behind has been reached and stays so.
  intro rest
  induction rest with
  | nil =>
      intro _ w hw hdone
      exact (ensures_pure _).mpr ⟨hw, fun a ha => hdone a ha List.not_mem_nil⟩
  | cons a rest ih =>
      intro hsub w hw hdone
      rw [ensures_forM_cons]
      refine (hturn a (hsub a List.mem_cons_self) w hw).mono ?_
      rintro _ w' ⟨hw', ha, hkept⟩
      apply ih (fun b hb => hsub b (List.mem_cons_of_mem a hb)) w' hw'
      intro b hb hnot
      by_cases hba : b = a
      · exact hba ▸ ha
      · exact hkept b hb (hdone b hb fun hmem =>
          (List.mem_cons.mp hmem).elim hba hnot)

/-- A loop whose turns keep a condition, and one of whose items settles something that the
others leave settled, settles it if that item is among them. -/
theorem ensures_forM_settled (kept settled : World σ → Prop) (herald : α) {f : α → Run σ Unit}
    {items : List α}
    (hherald : herald ∈ items → ∀ w, kept w → (f herald).Ensures w fun _ w' => kept w' ∧ settled w')
    (hothers : ∀ a ∈ items, a ≠ herald → ∀ w, kept w →
      (f a).Ensures w fun _ w' => kept w' ∧ (settled w → settled w')) (hw : kept w) :
    (items.forM f).Ensures w fun _ w' => kept w' ∧ (herald ∈ items → settled w') := by
  have hreached : (items.forM f).Ensures w fun _ w' =>
      kept w' ∧ ∀ a ∈ items, a = herald → settled w' := by
    apply ensures_forM_reached kept (fun a u => a = herald → settled u) _ hw
    intro a ha u hu
    by_cases heq : a = herald
    · subst heq
      refine (hherald ha u hu).mono ?_
      rintro _ u' ⟨hu', hsettled⟩
      exact ⟨hu', fun _ => hsettled, fun _ _ _ _ => hsettled⟩
    · refine (hothers a ha heq u hu).mono ?_
      rintro _ u' ⟨hu', hkept⟩
      exact ⟨hu', fun hsame => absurd hsame heq, fun _ _ hbefore hsame => hkept (hbefore hsame)⟩
  exact hreached.mono fun _ _ h => ⟨h.1, fun hmem => h.2 herald hmem rfl⟩

/-- Reading objects one after the other changes nothing. -/
theorem ensures_mapM {read : α → Run σ β} {value : World σ → α → β}
    (hread : ∀ a w post, (read a).Ensures w post ↔ post (value w a) w) (items : List α)
    {post : List β → World σ → Prop} :
    (items.mapM read).Ensures w post ↔ post (items.map (value w)) w := by
  induction items generalizing post with
  | nil => simp
  | cons a rest ih => simp [hread, ih]

@[simp] theorem ensures_mapM_service (items : List (Ref .service))
    {post : List Service → World σ → Prop} :
    (items.mapM (service (σ := σ))).Ensures w post ↔ post (items.map w.service) w :=
  ensures_mapM (fun r _ _ => ensures_service r) items

@[simp] theorem ensures_mapM_property (items : List (Ref .property))
    {post : List ConfigurableProperty → World σ → Prop} :
    (items.mapM (property (σ := σ))).Ensures w post ↔ post (items.map w.property) w :=
  ensures_mapM (fun r _ _ => ensures_property r) items

end Run

/-! ## Holding a component -/

/-- The world with one operation more that holds a component. -/
def World.hold (w : World σ) (r : Ref .component) : World σ :=
  w.changeComponent r fun c => { c with holds := c.holds + 1 }

/-- The world with one operation less that holds a component. -/
def World.release (w : World σ) (r : Ref .component) : World σ :=
  w.changeComponent r fun c => { c with holds := c.holds - 1 }

/-- A component that was held and is released again is what it was. -/
theorem World.component_release_of_hold {w u : World σ} {r : Ref .component}
    (hheld : u.component = (w.hold r).component) : (u.release r).component = w.component := by
  funext s
  rw [release, component_changeComponent, hheld, hold, component_changeComponent,
    component_changeComponent, if_pos rfl]
  split
  next heq => rw [heq]; rfl
  next => rfl

namespace Run

variable {w : World σ}

@[simp] theorem ensures_holding (r : Ref .component) (m : Run σ α)
    {post : α → World σ → Prop} :
    (holding r m).Ensures w post ↔
      m.Ensures (w.hold r) fun a w' => post a (w'.release r) := by
  simp only [holding, ensures_bind, ensures_changeComponent, ensures_pure]
  rfl

/-- An operation on a component that may be gone: nothing happens, or it happens with
the component held. -/
theorem ensures_whileAlive {r : Option (Ref .component)} {m : Ref .component → Run σ Unit}
    {post : Unit → World σ → Prop} (hidle : post () w)
    (hheld : ∀ s, r = some s → (m s).Ensures (w.hold s) fun _ w' => post () (w'.release s)) :
    (whileAlive r m).Ensures w post := by
  cases r with
  | none => exact (ensures_pure _).mpr hidle
  | some s =>
      simp only [whileAlive, ensures_bind, ensures_component]
      split
      · exact (ensures_holding s (m s)).mpr (hheld s rfl)
      · exact (ensures_pure _).mpr hidle

/-- An operation on a component that its owner keeps. -/
theorem ensures_whileAlive_owned {s : Ref .component} {m : Ref .component → Run σ Unit}
    {post : Unit → World σ → Prop} (howned : (w.component s).owned = true) :
    (whileAlive (some s) m).Ensures w post ↔
      (m s).Ensures (w.hold s) fun _ w' => post () (w'.release s) := by
  simp [whileAlive, Component.isAlive, howned]

end Run

end Componentry

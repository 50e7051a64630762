import Componentry.Proofs.Run.Outcome

/-!
# Runs that return

`m.Returns w post` says that `m` returns from the world `w`, and that what it returns satisfies
`post`, together with the world that it leaves. The laws follow the structure of a run, as those
of `Run.Ensures` do. A run that is known to return ensures what it returns.
-/

namespace Componentry

variable {σ α β γ : Type}

namespace Run

/-- The run returns from a world, and what it returns satisfies a condition. -/
def Returns (m : Run σ α) (w : World σ) (post : α → World σ → Prop) : Prop :=
  ∃ a w', m.run w = some (a, w') ∧ post a w'

section Returns

variable {w : World σ} {post : α → World σ → Prop}

theorem Returns.mono {m : Run σ α} {post' : α → World σ → Prop} (h : m.Returns w post)
    (himp : ∀ a w', post a w' → post' a w') : m.Returns w post' := by
  obtain ⟨a, w', hrun, hpost⟩ := h
  exact ⟨a, w', hrun, himp a w' hpost⟩

/-- What a run returns is the same each time that it is looked at. -/
theorem Returns.and {m : Run σ α} {post' : α → World σ → Prop}
    (h : m.Returns w post) (h' : m.Returns w post') :
    m.Returns w fun a w' => post a w' ∧ post' a w' := by
  obtain ⟨a, w', hrun, hpost⟩ := h
  obtain ⟨a', w'', hrun', hpost'⟩ := h'
  cases hrun.symm.trans hrun'
  exact ⟨a, w', hrun, hpost, hpost'⟩

theorem returns_forall {ι : Type} [Nonempty ι] {m : Run σ α}
    {post : ι → α → World σ → Prop} (h : ∀ i, m.Returns w (post i)) :
    m.Returns w fun a w' => ∀ i, post i a w' := by
  obtain ⟨first⟩ : Nonempty ι := inferInstance
  obtain ⟨a, w', hrun, -⟩ := h first
  refine ⟨a, w', hrun, fun i => ?_⟩
  obtain ⟨a', w'', hrun', hpost⟩ := h i
  cases hrun.symm.trans hrun'
  exact hpost

@[simp] theorem returns_pure (a : α) : (pure a : Run σ α).Returns w post ↔ post a w := by
  constructor
  · rintro ⟨a', w', hrun, hpost⟩
    cases hrun
    exact hpost
  · exact fun hpost => ⟨a, w, rfl, hpost⟩

@[simp] theorem returns_bind (m : Run σ β) (f : β → Run σ α) :
    (m >>= f).Returns w post ↔ m.Returns w fun b w' => (f b).Returns w' post := by
  constructor
  · rintro ⟨a, w'', hrun, hpost⟩
    rw [StateT.run_bind] at hrun
    obtain ⟨⟨b, w'⟩, hm, hf⟩ := Option.bind_eq_some_iff.mp hrun
    exact ⟨b, w', hm, a, w'', hf, hpost⟩
  · rintro ⟨b, w', hm, a, w'', hf, hpost⟩
    refine ⟨a, w'', ?_, hpost⟩
    rw [StateT.run_bind, hm]
    exact hf

/-- A run that returns from a world whatever is asked of it ensures the same as it returns. -/
theorem returns_iff {m : Run σ α} (htotal : m.Returns w fun _ _ => True) :
    m.Returns w post ↔ m.Ensures w post := by
  obtain ⟨a, w', hrun, -⟩ := htotal
  constructor
  · rintro ⟨b, u, hrun', hpost⟩ c v hrun''
    cases hrun'.symm.trans hrun''
    exact hpost
  · exact fun hensures => ⟨a, w', hrun, hensures a w' hrun⟩

theorem returns_get {post : World σ → World σ → Prop} :
    (get : Run σ (World σ)).Returns w post ↔ post w w :=
  (returns_iff ⟨w, w, rfl, trivial⟩).trans ensures_get

theorem returns_modify (f : World σ → World σ) {post : PUnit → World σ → Prop} :
    (modify f : Run σ PUnit).Returns w post ↔ post ⟨⟩ (f w) :=
  (returns_iff ⟨⟨⟩, f w, rfl, trivial⟩).trans (ensures_modify f)

section Changes

variable {post : Unit → World σ → Prop}

@[simp] theorem returns_changeSurroundings (f : σ → σ) :
    (changeSurroundings f : Run σ Unit).Returns w post ↔ post () (w.changeSurroundings f) :=
  returns_modify _

@[simp] theorem returns_setService (r : Ref .service) (service : Service) :
    (setService r service : Run σ Unit).Returns w post ↔ post () (w.setService r service) :=
  returns_modify _

@[simp] theorem returns_changeComponent (r : Ref .component) (f : Component → Component) :
    (changeComponent r f : Run σ Unit).Returns w post ↔ post () (w.changeComponent r f) :=
  returns_modify _

@[simp] theorem returns_setProperty (r : Ref .property) (property : ConfigurableProperty) :
    (setProperty r property : Run σ Unit).Returns w post ↔ post () (w.setProperty r property) :=
  returns_modify _

@[simp] theorem returns_changeProvider (r : Ref .provider) (f : Provider → Provider) :
    (changeProvider r f : Run σ Unit).Returns w post ↔ post () (w.changeProvider r f) :=
  returns_modify _

@[simp] theorem returns_changeConfigurator (r : Ref .configurator)
    (f : Configurator → Configurator) :
    (changeConfigurator r f : Run σ Unit).Returns w post ↔ post () (w.changeConfigurator r f) :=
  returns_modify _

@[simp] theorem returns_changeCaller (r : Ref .caller) (f : Caller → Caller) :
    (changeCaller r f : Run σ Unit).Returns w post ↔ post () (w.changeCaller r f) :=
  returns_modify _

@[simp] theorem returns_note (out : Collaborators σ) (record : Log.Record) :
    (out.note record).Returns w post ↔ post () (w.changeSurroundings (out.log record)) :=
  returns_modify _

end Changes

@[simp] theorem returns_platform {post : Platform → World σ → Prop} :
    (platform : Run σ Platform).Returns w post ↔ post w.platform w := by
  simp only [platform, returns_bind, returns_get, returns_pure]

@[simp] theorem returns_surroundings {post : σ → World σ → Prop} :
    (surroundings : Run σ σ).Returns w post ↔ post w.surroundings w := by
  simp only [surroundings, returns_bind, returns_get, returns_pure]

@[simp] theorem returns_component (r : Ref .component) {post : Component → World σ → Prop} :
    (component r : Run σ Component).Returns w post ↔ post (w.component r) w := by
  simp only [component, returns_bind, returns_platform, returns_pure]
  rfl

@[simp] theorem returns_property (r : Ref .property)
    {post : ConfigurableProperty → World σ → Prop} :
    (property r : Run σ ConfigurableProperty).Returns w post ↔ post (w.property r) w := by
  simp only [property, returns_bind, returns_platform, returns_pure]
  rfl

@[simp] theorem returns_provider (r : Ref .provider) {post : Provider → World σ → Prop} :
    (provider r : Run σ Provider).Returns w post ↔ post (w.provider r) w := by
  simp only [provider, returns_bind, returns_platform, returns_pure]
  rfl

@[simp] theorem returns_configurator (r : Ref .configurator)
    {post : Configurator → World σ → Prop} :
    (configurator r : Run σ Configurator).Returns w post ↔ post (w.configurator r) w := by
  simp only [configurator, returns_bind, returns_platform, returns_pure]
  rfl

@[simp] theorem returns_service (r : Ref .service) {post : Service → World σ → Prop} :
    (service r : Run σ Service).Returns w post ↔ post (w.service r) w := by
  simp only [service, returns_bind, returns_platform, returns_pure]
  rfl

@[simp] theorem returns_addService (service : Service) {post : Ref .service → World σ → Prop} :
    (addService service : Run σ (Ref .service)).Returns w post ↔
      post w.nextService (w.addService service) :=
  (returns_iff ⟨w.nextService, w.addService service, rfl, trivial⟩).trans (ensures_addService service)

/-- Logging returns, and changes nothing on the platform. -/
theorem returns_noteAll (out : Collaborators σ) (records : List Log.Record) :
    (out.noteAll records).Returns w fun _ w' => w'.platform = w.platform := by
  induction records generalizing w with
  | nil => exact (returns_pure _).mpr rfl
  | cons record rest ih =>
      apply (returns_bind (out.note record) fun _ => out.noteAll rest).mpr
      rw [returns_note]
      exact ih

/-- Reading objects one after the other changes nothing. -/
theorem returns_mapM {read : γ → Run σ β} {value : World σ → γ → β}
    (hread : ∀ c w post, (read c).Returns w post ↔ post (value w c) w) (items : List γ)
    {post : List β → World σ → Prop} :
    (items.mapM read).Returns w post ↔ post (items.map (value w)) w := by
  induction items generalizing post with
  | nil => simp
  | cons c rest ih =>
      simp only [List.mapM_cons, returns_bind, hread, ih, returns_pure, List.map_cons]

@[simp] theorem returns_mapM_service (items : List (Ref .service))
    {post : List Service → World σ → Prop} :
    (items.mapM (service (σ := σ))).Returns w post ↔ post (items.map w.service) w :=
  returns_mapM (fun r _ _ => returns_service r) items

@[simp] theorem returns_mapM_property (items : List (Ref .property))
    {post : List ConfigurableProperty → World σ → Prop} :
    (items.mapM (property (σ := σ))).Returns w post ↔ post (items.map w.property) w :=
  returns_mapM (fun r _ _ => returns_property r) items

theorem returns_forM_cons (f : γ → Run σ Unit) (c : γ) (rest : List γ)
    {post : Unit → World σ → Prop} :
    ((c :: rest).forM f).Returns w post ↔ (f c).Returns w fun _ w' => (rest.forM f).Returns w' post :=
  returns_bind (f c) fun _ => rest.forM f

@[simp] theorem returns_holding (r : Ref .component) (m : Run σ α) :
    (holding r m).Returns w post ↔
      m.Returns (w.hold r) fun a w' => post a (w'.release r) := by
  simp only [holding, returns_bind, returns_changeComponent, returns_pure]
  rfl

/-- An operation on a component that its owner keeps. -/
theorem returns_whileAlive_owned {s : Ref .component} {m : Ref .component → Run σ Unit}
    {post : Unit → World σ → Prop} (howned : (w.component s).owned = true) :
    (whileAlive (some s) m).Returns w post ↔
      (m s).Returns (w.hold s) fun _ w' => post () (w'.release s) := by
  simp [whileAlive, Component.isAlive, howned]

end Returns

end Run

end Componentry

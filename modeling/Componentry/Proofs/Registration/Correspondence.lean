import Componentry.Proofs.Registration.Frame
import Componentry.Proofs.Run.Pairing

/-!
# Worlds that differ in handles only

Two worlds are alike if they are the same but for registrations and for the handles of
endpoints, which have to stand for the same. What nobody notices leaves them so on either
side by itself, and the same change on both sides leaves them so.
-/

namespace Componentry

variable {σ τ ν α β : Type}

section Detached

variable {service₁ service₂ : Service}

/-- Services that are the same but for their registrations. -/
theorem Service.eq_of_detached (hsame : service₁.detached = service₂.detached) :
    ∃ registration, service₂ = { service₁ with registration := registration } := by
  refine ⟨service₂.registration, ?_⟩
  have hagain : ∀ service : Service,
      service = { service.detached with registration := service.registration } := fun _ => rfl
  rw [hagain service₂, ← hsame]
  rfl

theorem Service.visible_of_detached (hsame : service₁.detached = service₂.detached) :
    service₁.visible = service₂.visible := by
  obtain ⟨registration, rfl⟩ := eq_of_detached hsame
  rfl

theorem Service.hasField_of_detached (hsame : service₁.detached = service₂.detached)
    (field : String) : service₁.hasField field = service₂.hasField field := by
  obtain ⟨registration, rfl⟩ := eq_of_detached hsame
  rfl

theorem Service.field?_of_detached (hsame : service₁.detached = service₂.detached)
    (field : String) : service₁.field? field = service₂.field? field := by
  obtain ⟨registration, rfl⟩ := eq_of_detached hsame
  rfl

/-- Services that both stay as they are or both change alike. -/
abbrev Service.ChangeAlike : Option Service → Option Service → Prop :=
  Option.Rel fun changed₁ changed₂ => changed₁.detached = changed₂.detached

theorem Service.written?_of_detached (hsame : service₁.detached = service₂.detached)
    (field : String) (value : Value) :
    ChangeAlike (service₁.written? field value) (service₂.written? field value) := by
  obtain ⟨registration, rfl⟩ := eq_of_detached hsame
  simp only [written?]
  cases assignFirst? field value service₁.properties with
  | none => exact .none
  | some properties => exact .some rfl

theorem Service.extended?_of_detached (hsame : service₁.detached = service₂.detached)
    (entries : Properties) :
    ChangeAlike (service₁.extended? entries) (service₂.extended? entries) := by
  obtain ⟨registration, rfl⟩ := eq_of_detached hsame
  simp only [extended?]
  split
  · exact .none
  · exact .some rfl

theorem Service.reduced?_of_detached (hsame : service₁.detached = service₂.detached)
    (entries : Properties) :
    ChangeAlike (service₁.reduced? entries) (service₂.reduced? entries) := by
  obtain ⟨registration, rfl⟩ := eq_of_detached hsame
  simp only [reduced?]
  split
  · exact .none
  · exact .some rfl

end Detached

/-- The configurator without its publication. -/
def Configurator.concealed (configurator : Configurator) : Configurator :=
  { configurator with publication := none }

/-- Configurators that are the same but for their publications. -/
theorem Configurator.eq_of_concealed {c₁ c₂ : Configurator} (hsame : c₁.concealed = c₂.concealed) :
    c₂ = { c₁ with publication := c₂.publication } := by
  have hagain : ∀ c : Configurator,
      c = { c.concealed with publication := c.publication } := fun _ => rfl
  rw [hagain c₂, ← hsame]
  rfl

/-- What can be seen around a platform: nothing that the registry has to do with. -/
structure Sight (σ τ ν : Type) where
  /-- The bodies that were called, in order. -/
  called : σ → List Nat
  /-- The identities, properties and targets of the live endpoints. -/
  live : σ → List (String × Properties × Target)
  /-- Whatever else methods, guests and the host look at. -/
  rest : σ → τ
  /-- What the handle of an endpoint stands for, once it has been given out. -/
  name : σ → Publication → Option ν

namespace Sight

variable (V : Sight σ τ ν)

/-- All that is seen. -/
def seen (s : σ) : List Nat × List (String × Properties × Target) × τ :=
  (V.called s, V.live s, V.rest s)

/-- All that is seen, and what the handles of endpoints stand for. -/
def view (s : σ) :
    (List Nat × List (String × Properties × Target) × τ) × (Publication → Option ν) :=
  (V.seen s, V.name s)

/-- Handles that stand for the same. -/
def SameName (s₁ s₂ : σ) (handle₁ handle₂ : Publication) : Prop :=
  ∃ name, V.name s₁ handle₁ = some name ∧ V.name s₂ handle₂ = some name

end Sight

/-- Worlds that are the same but for registrations and handles of endpoints. -/
structure Alike (V : Sight σ τ ν) (w₁ w₂ : World σ) : Prop where
  settings : w₁.platform.settings = w₂.platform.settings
  component : w₁.component = w₂.component
  property : w₁.property = w₂.property
  provider : w₁.provider = w₂.provider
  caller : w₁.caller = w₂.caller
  service : ∀ r, (w₁.service r).detached = (w₂.service r).detached
  configurator : ∀ r, (w₁.configurator r).concealed = (w₂.configurator r).concealed
  publication : ∀ r, Option.Rel (V.SameName w₁.surroundings w₂.surroundings)
    (w₁.configurator r).publication (w₂.configurator r).publication
  seen : V.seen w₁.surroundings = V.seen w₂.surroundings
  nextService : w₁.nextService = w₂.nextService
  nextProperty : w₁.nextProperty = w₂.nextProperty

namespace Alike

variable {V : Sight σ τ ν} {w₁ w₂ u₁ u₂ : World σ}

/-- A world is like itself if it is known what the recorded publications stand for. -/
theorem refl {w : World σ}
    (hnamed : ∀ r, ∀ handle ∈ (w.configurator r).publication,
      (V.name w.surroundings handle).isSome = true) : Alike V w w where
  settings := rfl
  component := rfl
  property := rfl
  provider := rfl
  caller := rfl
  service _ := rfl
  configurator _ := rfl
  publication r := by
    cases hpublication : (w.configurator r).publication with
    | none => exact .none
    | some handle =>
        obtain ⟨name, hname⟩ := Option.isSome_iff_exists.mp (hnamed r handle hpublication)
        exact .some ⟨name, hname, hname⟩
  seen := rfl
  nextService := rfl
  nextProperty := rfl

/-- What nobody notices on either side leaves worlds alike. -/
theorem of_faint (h : Alike V w₁ w₂) (h₁ : Faint V.view w₁ u₁) (h₂ : Faint V.view w₂ u₂) :
    Alike V u₁ u₂ := by
  obtain ⟨hseen₁, hname₁⟩ := Prod.mk.inj h₁.surroundings
  obtain ⟨hseen₂, hname₂⟩ := Prod.mk.inj h₂.surroundings
  have hsame : V.SameName u₁.surroundings u₂.surroundings =
      V.SameName w₁.surroundings w₂.surroundings := by
    funext handle₁ handle₂
    rw [Sight.SameName, hname₁, hname₂, Sight.SameName]
  constructor
  · rw [h₁.settings, h₂.settings, h.settings]
  · rw [h₁.component, h₂.component, h.component]
  · rw [h₁.property, h₂.property, h.property]
  · rw [h₁.provider, h₂.provider, h.provider]
  · rw [h₁.caller, h₂.caller, h.caller]
  · intro r
    rw [h₁.service, h₂.service, h.service]
  · rw [h₁.configurator, h₂.configurator]
    exact h.configurator
  · rw [h₁.configurator, h₂.configurator, hsame]
    exact h.publication
  · rw [hseen₁, hseen₂, h.seen]
  · rw [h₁.nextService, h₂.nextService, h.nextService]
  · rw [h₁.nextProperty, h₂.nextProperty, h.nextProperty]

theorem changeComponent (h : Alike V w₁ w₂) (r : Ref .component) (f : Component → Component) :
    Alike V (w₁.changeComponent r f) (w₂.changeComponent r f) :=
  { h with
    component := by
      funext s
      simp only [World.component_changeComponent, h.component] }

theorem changeProvider (h : Alike V w₁ w₂) (r : Ref .provider) (f : Provider → Provider) :
    Alike V (w₁.changeProvider r f) (w₂.changeProvider r f) :=
  { h with
    provider := by
      funext s
      simp only [World.provider_changeProvider, h.provider] }

theorem changeCaller (h : Alike V w₁ w₂) (r : Ref .caller) (f : Caller → Caller) :
    Alike V (w₁.changeCaller r f) (w₂.changeCaller r f) :=
  { h with
    caller := by
      funext s
      simp only [World.caller_changeCaller, h.caller] }

theorem setProperty (h : Alike V w₁ w₂) (r : Ref .property) (property : ConfigurableProperty) :
    Alike V (w₁.setProperty r property) (w₂.setProperty r property) :=
  { h with
    property := by
      funext s
      simp only [World.property_setProperty, h.property] }

theorem setService (h : Alike V w₁ w₂) (r : Ref .service) {service₁ service₂ : Service}
    (hsame : service₁.detached = service₂.detached) :
    Alike V (w₁.setService r service₁) (w₂.setService r service₂) :=
  { h with
    service := by
      intro s
      rw [World.service_setService, World.service_setService]
      split
      · exact hsame
      · exact h.service s }

/-- A change of a configurator that does not depend on its publication. -/
theorem changeConfigurator (h : Alike V w₁ w₂) (r : Ref .configurator)
    {f₁ f₂ : Configurator → Configurator}
    (hsame : ∀ c₁ c₂, c₁.concealed = c₂.concealed → (f₁ c₁).concealed = (f₂ c₂).concealed)
    (hpublication : Option.Rel (V.SameName w₁.surroundings w₂.surroundings)
      (f₁ (w₁.configurator r)).publication (f₂ (w₂.configurator r)).publication) :
    Alike V (w₁.changeConfigurator r f₁) (w₂.changeConfigurator r f₂) :=
  { h with
    configurator := by
      intro s
      rw [World.configurator_changeConfigurator, World.configurator_changeConfigurator]
      split
      · exact hsame _ _ (h.configurator r)
      · exact h.configurator s
    publication := by
      intro s
      rw [World.configurator_changeConfigurator, World.configurator_changeConfigurator]
      split
      · exact hpublication
      · exact h.publication s }

theorem forget (h : Alike V w₁ w₂) (r : Ref .configurator) :
    Alike V (w₁.changeConfigurator r fun c => { c with publication := none })
      (w₂.changeConfigurator r fun c => { c with publication := none }) :=
  h.changeConfigurator r (fun _ _ hsame => hsame) .none

theorem hold (h : Alike V w₁ w₂) (r : Ref .component) : Alike V (w₁.hold r) (w₂.hold r) :=
  h.changeComponent r _

theorem release (h : Alike V w₁ w₂) (r : Ref .component) :
    Alike V (w₁.release r) (w₂.release r) :=
  h.changeComponent r _

/-- Surroundings change so that the same is seen, and handles stand for what they stood for. -/
theorem changeSurroundings (h : Alike V w₁ w₂) {f₁ f₂ : σ → σ}
    (hname₁ : V.name (f₁ w₁.surroundings) = V.name w₁.surroundings)
    (hname₂ : V.name (f₂ w₂.surroundings) = V.name w₂.surroundings)
    (hseen : V.seen (f₁ w₁.surroundings) = V.seen (f₂ w₂.surroundings)) :
    Alike V (w₁.changeSurroundings f₁) (w₂.changeSurroundings f₂) :=
  { h with
    publication := by
      have hsame : V.SameName (f₁ w₁.surroundings) (f₂ w₂.surroundings) =
          V.SameName w₁.surroundings w₂.surroundings := by
        funext handle₁ handle₂
        rw [Sight.SameName, hname₁, hname₂, Sight.SameName]
      intro r
      rw [World.surroundings_changeSurroundings, World.surroundings_changeSurroundings, hsame]
      exact h.publication r
    seen := hseen }

theorem addService (h : Alike V w₁ w₂) (service : Service) :
    Alike V (w₁.addService service) (w₂.addService service) :=
  { h with
    service := by
      intro s
      rw [World.service_addService, World.service_addService, h.nextService]
      split
      · rfl
      · exact h.service s
    nextService := congrArg (fun r : Ref .service => (⟨r.index + 1⟩ : Ref .service)) h.nextService }

theorem addProperty (h : Alike V w₁ w₂) (property : ConfigurableProperty) :
    Alike V (w₁.addProperty property) (w₂.addProperty property) :=
  { h with
    property := by
      funext s
      rw [World.property_addProperty, World.property_addProperty, h.nextProperty, h.property]
    nextProperty :=
      congrArg (fun r : Ref .property => (⟨r.index + 1⟩ : Ref .property)) h.nextProperty }

end Alike

namespace Alike

variable {V : Sight σ τ ν}

theorem twins_platform :
    Run.Twins (Alike V) (fun p₁ p₂ : Platform => p₁.settings = p₂.settings)
      (Run.platform : Run σ Platform) Run.platform :=
  Run.twins_of_steps (fun _ => rfl) (fun _ => rfl) fun _ _ h => ⟨h, h.settings⟩

theorem twins_component (r : Ref .component) :
    Run.Twins (Alike V) Eq (Run.component r : Run σ Component) (Run.component r) :=
  Run.twins_of_steps (fun _ => rfl) (fun _ => rfl) fun _ _ h => ⟨h, congrFun h.component r⟩

theorem twins_property (r : Ref .property) :
    Run.Twins (Alike V) Eq (Run.property r : Run σ ConfigurableProperty) (Run.property r) :=
  Run.twins_of_steps (fun _ => rfl) (fun _ => rfl) fun _ _ h => ⟨h, congrFun h.property r⟩

theorem twins_provider (r : Ref .provider) :
    Run.Twins (Alike V) Eq (Run.provider r : Run σ Provider) (Run.provider r) :=
  Run.twins_of_steps (fun _ => rfl) (fun _ => rfl) fun _ _ h => ⟨h, congrFun h.provider r⟩

theorem twins_caller (r : Ref .caller) :
    Run.Twins (Alike V) Eq (Run.caller r : Run σ Caller) (Run.caller r) :=
  Run.twins_of_steps (fun _ => rfl) (fun _ => rfl) fun _ _ h => ⟨h, congrFun h.caller r⟩

theorem twins_service (r : Ref .service) :
    Run.Twins (Alike V) (fun s₁ s₂ : Service => s₁.detached = s₂.detached)
      (Run.service r : Run σ Service) (Run.service r) :=
  Run.twins_of_steps (fun _ => rfl) (fun _ => rfl) fun _ _ h => ⟨h, h.service r⟩

theorem twins_configurator (r : Ref .configurator) :
    Run.Twins (Alike V) (fun c₁ c₂ : Configurator => ∃ publication,
        c₂ = { c₁ with publication := publication } ∧
          publication.isNone = c₁.publication.isNone)
      (Run.configurator r : Run σ Configurator) (Run.configurator r) := by
  apply Run.twins_of_steps (fun _ => rfl) (fun _ => rfl)
  intro w₁ w₂ h
  have hnone : (w₂.configurator r).publication.isNone = (w₁.configurator r).publication.isNone := by
    have hpublication := h.publication r
    generalize (w₁.configurator r).publication = publication₁,
      (w₂.configurator r).publication = publication₂ at hpublication
    cases hpublication <;> rfl
  exact ⟨h, _, Configurator.eq_of_concealed (h.configurator r), hnone⟩

theorem twins_changeComponent (r : Ref .component) (f : Component → Component) :
    Run.Twins (Alike V) Eq (Run.changeComponent r f : Run σ Unit) (Run.changeComponent r f) :=
  Run.twins_of_steps (fun _ => rfl) (fun _ => rfl) fun _ _ h => ⟨h.changeComponent r f, rfl⟩

theorem twins_setProperty (r : Ref .property) (property : ConfigurableProperty) :
    Run.Twins (Alike V) Eq (Run.setProperty r property : Run σ Unit) (Run.setProperty r property) :=
  Run.twins_of_steps (fun _ => rfl) (fun _ => rfl) fun _ _ h => ⟨h.setProperty r property, rfl⟩

theorem twins_changeProvider (r : Ref .provider) (f : Provider → Provider) :
    Run.Twins (Alike V) Eq (Run.changeProvider r f : Run σ Unit) (Run.changeProvider r f) :=
  Run.twins_of_steps (fun _ => rfl) (fun _ => rfl) fun _ _ h => ⟨h.changeProvider r f, rfl⟩

theorem twins_changeCaller (r : Ref .caller) (f : Caller → Caller) :
    Run.Twins (Alike V) Eq (Run.changeCaller r f : Run σ Unit) (Run.changeCaller r f) :=
  Run.twins_of_steps (fun _ => rfl) (fun _ => rfl) fun _ _ h => ⟨h.changeCaller r f, rfl⟩

/-- A change of a configurator that has nothing to do with its publication. -/
theorem twins_changeConfigurator (r : Ref .configurator) {f : Configurator → Configurator}
    (hconcealed : ∀ c, (f c).concealed = (f c.concealed).concealed)
    (hpublication : ∀ c, (f c).publication = c.publication) :
    Run.Twins (Alike V) Eq (Run.changeConfigurator r f : Run σ Unit)
      (Run.changeConfigurator r f) := by
  apply Run.twins_of_steps (fun _ => rfl) (fun _ => rfl)
  intro w₁ w₂ h
  refine ⟨h.changeConfigurator r ?_ ?_, rfl⟩
  · intro c₁ c₂ hsame
    rw [hconcealed, hsame, ← hconcealed]
  · rw [hpublication, hpublication]
    exact h.publication r

theorem twins_resetConfigurator (r : Ref .configurator) (component : Ref .component) :
    Run.Twins (Alike V) Eq
      (Run.changeConfigurator r fun _ => Configurator.reset component : Run σ Unit)
      (Run.changeConfigurator r fun _ => Configurator.reset component) := by
  apply Run.twins_of_steps (fun _ => rfl) (fun _ => rfl)
  exact fun _ _ h => ⟨h.changeConfigurator r (fun _ _ _ => rfl) .none, rfl⟩

theorem twins_addService (service : Service) :
    Run.Twins (Alike V) Eq (Run.addService service : Run σ (Ref .service))
      (Run.addService service) :=
  Run.twins_of_steps (fun _ => rfl) (fun _ => rfl)
    fun _ _ h => ⟨h.addService service, h.nextService⟩

theorem twins_addProperty (property : ConfigurableProperty) :
    Run.Twins (Alike V) Eq (Run.addProperty property : Run σ (Ref .property))
      (Run.addProperty property) :=
  Run.twins_of_steps (fun _ => rfl) (fun _ => rfl)
    fun _ _ h => ⟨h.addProperty property, h.nextProperty⟩

/-- What nobody notices goes with whatever nobody notices. -/
theorem twins_unnoticed {agree : α → β → Prop} {m₁ : Run σ α} {m₂ : Run σ β}
    (h₁ : Unnoticed V.view m₁) (h₂ : Unnoticed V.view m₂) (hagree : ∀ a b, agree a b) :
    Run.Twins (Alike V) agree m₁ m₂ := by
  intro w₁ w₂ halike
  apply (h₁ w₁).jointly (h₂ w₂)
  exact fun a _ b _ hfaint₁ hfaint₂ => ⟨halike.of_faint hfaint₁ hfaint₂, hagree a b⟩

theorem twins_holding {m₁ m₂ : Run σ α} (r : Ref .component)
    (hm : Run.Twins (Alike V) Eq m₁ m₂) :
    Run.Twins (Alike V) Eq (Run.holding r m₁) (Run.holding r m₂) := by
  apply (twins_changeComponent r _).bind
  intro _ _ _
  apply hm.bind
  rintro a _ rfl
  apply (twins_changeComponent r _).bind
  exact fun _ _ _ => Run.twins_pure rfl

theorem twins_whileAlive {r : Option (Ref .component)} {m₁ m₂ : Ref .component → Run σ Unit}
    (hm : ∀ s, Run.Twins (Alike V) Eq (m₁ s) (m₂ s)) :
    Run.Twins (Alike V) Eq (Run.whileAlive r m₁) (Run.whileAlive r m₂) := by
  cases r with
  | none => exact Run.twins_pure rfl
  | some s =>
      apply (twins_component s).bind
      rintro c _ rfl
      split
      · exact twins_holding s (hm s)
      · exact Run.twins_pure rfl

/-- What runs while a component is held finds the surroundings as they were. -/
theorem jointly_whileAlive {w₁ w₂ : World σ} (h : Alike V w₁ w₂) {r : Option (Ref .component)}
    {m₁ m₂ : Ref .component → Run σ Unit}
    (hm : ∀ s u₁ u₂, Alike V u₁ u₂ → u₁.surroundings = w₁.surroundings →
      u₂.surroundings = w₂.surroundings →
      (m₁ s).Jointly (m₂ s) u₁ u₂ fun a v₁ b v₂ => Alike V v₁ v₂ ∧ a = b) :
    (Run.whileAlive r m₁).Jointly (Run.whileAlive r m₂) w₁ w₂
      fun a v₁ b v₂ => Alike V v₁ v₂ ∧ a = b := by
  cases r with
  | none => exact Run.twins_pure rfl w₁ w₂ h
  | some s =>
      apply Run.jointly_bind_of_steps (c := w₁.component s) (d := w₂.component s) rfl rfl
      rw [h.component]
      split
      · apply Run.jointly_bind_of_steps (c := ()) (d := ()) rfl rfl
        apply (hm s _ _ (h.hold s) rfl rfl).bind
        rintro a v₁ _ v₂ ⟨halike, rfl⟩
        exact .some ⟨halike.release s, rfl⟩
      · exact Run.twins_pure rfl w₁ w₂ h

end Alike

end Componentry

import Componentry.Engine.Handling
import Componentry.Proofs.Registry.Ledger
import Componentry.Proofs.Run.Pairing

/-!
# Sides of handlers

Every kind of handler acts on a side of the platform of its own: providers on services and
on the registry, configurators on properties and on the host, callers on what they have
seen. A handler looks at nothing else but the component, and of the component it changes no
more than its own registration and what others can see of it.

So handlers of different sides may be asked in any order. Two worlds are akin on some sides
if nothing differs there, and the handlers of these sides stand in the same order. A run
within a side does alike in worlds that are akin on it, whichever other sides they are akin
on, and leaves the world akin to what it was on all others. A loop over handlers then comes
to the same on some sides whichever handlers of other sides are in it, and wherever they
stand.
-/

namespace Componentry

variable {σ κ α β γ : Type}

/-- The sides of a platform, one for each kind of handler of the library. -/
inductive Side
  | provider
  | configurator
  | caller
  deriving DecidableEq

/-- The side that a handler acts on. A guest acts on none. -/
def Handler.side? : Handler → Option Side
  | provider _ => some .provider
  | configurator _ => some .configurator
  | caller _ => some .caller
  | guest _ _ => none

/-- Whether a handler acts on one of some sides. -/
def Handler.isOn (sides : List Side) (handler : Handler) : Bool :=
  handler.side?.any sides.contains

theorem Handler.isOn_iff {sides : List Side} {handler : Handler} :
    handler.isOn sides = true ↔ ∃ side ∈ sides, handler.side? = some side := by
  unfold isOn
  cases handler.side? with
  | none => simp
  | some side => simp

theorem Handler.isOn_of_side {sides : List Side} {side : Side} {handler : Handler}
    (hside : handler.side? = some side) : handler.isOn sides = true ↔ side ∈ sides := by
  simp [isOn, hside]

/-- The handlers of some sides among handlers. -/
def Handler.on (sides : List Side) (handlers : List Handler) : List Handler :=
  handlers.filter (isOn sides)

namespace Component

/-- The component without its handlers and without what others can see of it. -/
def core (component : Component) : Component :=
  { component with attachments := [], surface := .ofClass component.className }

/-- The attachments of the handlers of some sides. -/
def attachmentsOn (sides : List Side) (component : Component) : List Attachment :=
  component.attachments.filter fun attachment => attachment.handler.isOn sides

variable {sides : List Side} {c₁ c₂ : Component}

/-- The handlers of some sides are those of their attachments. -/
theorem handlers_on (hsame : c₁.attachmentsOn sides = c₂.attachmentsOn sides) :
    Handler.on sides c₁.handlers = Handler.on sides c₂.handlers := by
  have hmap : ∀ c : Component, Handler.on sides c.handlers =
      (c.attachmentsOn sides).map Attachment.handler := fun c => List.filter_map
  rw [hmap, hmap, hsame]

theorem interested_on (hsame : c₁.attachmentsOn sides = c₂.attachmentsOn sides)
    (field : String) :
    Handler.on sides (c₁.interested field) = Handler.on sides (c₂.interested field) := by
  have hmap : ∀ c : Component, Handler.on sides (c.interested field) =
      ((c.attachmentsOn sides).filter fun attachment => attachment.fields.contains field).map
        Attachment.handler := by
    intro c
    rw [interested, Handler.on, List.filter_map, attachmentsOn, List.filter_comm]
    rfl
  rw [hmap, hmap, hsame]

end Component

/-- Registering a handler is a matter of the handlers that are like it. -/
theorem Attachment.filter_register (like : Handler → Bool) (handler : Handler)
    (fields : List String) (attachments : List Attachment) :
    (register handler fields attachments).filter (fun a => like a.handler) =
      if like handler then register handler fields (attachments.filter fun a => like a.handler)
      else attachments.filter fun a => like a.handler := by
  induction attachments with
  | nil =>
      by_cases hlike : like handler
      · simp [register, hlike]
      · simp [register, hlike]
  | cons attachment rest ih =>
      by_cases hsame : attachment.handler = handler
      · by_cases hlike : like handler
        · simp [register, hsame, hlike]
        · simp [register, hsame, hlike]
      · by_cases hlike : like handler <;> by_cases hother : like attachment.handler <;>
          simp_all [register]

/-- The registry and the host around a platform. -/
structure Premises where
  registry : Registry
  host : Host Target

/-- Nothing differs between two worlds on some sides, nor in the component but for handlers of
other sides. -/
structure Akin (premises : σ → Premises) (sides : List Side) (w₁ w₂ : World σ) : Prop where
  settings : w₁.platform.settings = w₂.platform.settings
  core : ∀ r, (w₁.component r).core = (w₂.component r).core
  attachments : ∀ r, (w₁.component r).attachmentsOn sides = (w₂.component r).attachmentsOn sides
  offered : .provider ∈ sides → w₁.provider = w₂.provider ∧ w₁.service = w₂.service ∧
    w₁.nextService = w₂.nextService ∧
    (premises w₁.surroundings).registry = (premises w₂.surroundings).registry
  bound : .configurator ∈ sides → w₁.configurator = w₂.configurator ∧
    w₁.property = w₂.property ∧ w₁.nextProperty = w₂.nextProperty ∧
    (premises w₁.surroundings).host = (premises w₂.surroundings).host
  seen : .caller ∈ sides → w₁.caller = w₂.caller

namespace Akin

variable {premises : σ → Premises} {sides : List Side} {u v w w₁ w₂ : World σ}

theorem refl (w : World σ) : Akin premises sides w w :=
  ⟨rfl, fun _ => rfl, fun _ => rfl, fun _ => ⟨rfl, rfl, rfl, rfl⟩, fun _ => ⟨rfl, rfl, rfl, rfl⟩,
    fun _ => rfl⟩

theorem symm (h : Akin premises sides u v) : Akin premises sides v u where
  settings := h.settings.symm
  core r := (h.core r).symm
  attachments r := (h.attachments r).symm
  offered hside := by
    obtain ⟨hprovider, hservice, hnext, hregistry⟩ := h.offered hside
    exact ⟨hprovider.symm, hservice.symm, hnext.symm, hregistry.symm⟩
  bound hside := by
    obtain ⟨hconfigurator, hproperty, hnext, hhost⟩ := h.bound hside
    exact ⟨hconfigurator.symm, hproperty.symm, hnext.symm, hhost.symm⟩
  seen hside := (h.seen hside).symm

theorem trans (huv : Akin premises sides u v) (hvw : Akin premises sides v w) :
    Akin premises sides u w where
  settings := huv.settings.trans hvw.settings
  core r := (huv.core r).trans (hvw.core r)
  attachments r := (huv.attachments r).trans (hvw.attachments r)
  offered hside := by
    obtain ⟨hprovider, hservice, hnext, hregistry⟩ := huv.offered hside
    obtain ⟨hprovider', hservice', hnext', hregistry'⟩ := hvw.offered hside
    exact ⟨hprovider.trans hprovider', hservice.trans hservice', hnext.trans hnext',
      hregistry.trans hregistry'⟩
  bound hside := by
    obtain ⟨hconfigurator, hproperty, hnext, hhost⟩ := huv.bound hside
    obtain ⟨hconfigurator', hproperty', hnext', hhost'⟩ := hvw.bound hside
    exact ⟨hconfigurator.trans hconfigurator', hproperty.trans hproperty', hnext.trans hnext',
      hhost.trans hhost'⟩
  seen hside := (huv.seen hside).trans (hvw.seen hside)

/-- Around alike platforms only the registry or the host of the sides counts. -/
theorem of_platform {u₁ u₂ : World σ} (h : Akin premises sides w₁ w₂)
    (hplatform₁ : u₁.platform = w₁.platform) (hplatform₂ : u₂.platform = w₂.platform)
    (hregistry : .provider ∈ sides →
      (premises u₁.surroundings).registry = (premises u₂.surroundings).registry)
    (hhost : .configurator ∈ sides →
      (premises u₁.surroundings).host = (premises u₂.surroundings).host) :
    Akin premises sides u₁ u₂ := by
  obtain ⟨_, _⟩ := u₁
  obtain ⟨_, _⟩ := u₂
  cases hplatform₁
  cases hplatform₂
  refine ⟨h.settings, h.core, h.attachments, fun hside => ?_, fun hside => ?_, h.seen⟩
  · exact ⟨(h.offered hside).1, (h.offered hside).2.1, (h.offered hside).2.2.1, hregistry hside⟩
  · exact ⟨(h.bound hside).1, (h.bound hside).2.1, (h.bound hside).2.2.1, hhost hside⟩

theorem of_idle (hidle : Idle premises u v) : Akin premises sides u v :=
  (refl u).of_platform rfl hidle.1 (fun _ => by rw [hidle.2]) fun _ => by rw [hidle.2]

/-- The same change of a component, which depends on nothing but what the worlds agree on. -/
theorem changeComponent (h : Akin premises sides w₁ w₂) (r : Ref .component)
    {f : Component → Component}
    (hcore : ∀ c₁ c₂, c₁.core = c₂.core → (f c₁).core = (f c₂).core)
    (hattachments : ∀ c₁ c₂, c₁.attachmentsOn sides = c₂.attachmentsOn sides →
      (f c₁).attachmentsOn sides = (f c₂).attachmentsOn sides) :
    Akin premises sides (w₁.changeComponent r f) (w₂.changeComponent r f) :=
  { h with
    core := by
      intro s
      rw [World.component_changeComponent, World.component_changeComponent]
      split
      · exact hcore _ _ (h.core r)
      · exact h.core s
    attachments := by
      intro s
      rw [World.component_changeComponent, World.component_changeComponent]
      split
      · exact hattachments _ _ (h.attachments r)
      · exact h.attachments s }

/-- A change of a component that nothing is seen of on the sides. -/
theorem unchanged (r : Ref .component) {f : Component → Component}
    (hcore : ∀ c, (f c).core = c.core)
    (hattachments : ∀ c, (f c).attachmentsOn sides = c.attachmentsOn sides) :
    Akin premises sides w (w.changeComponent r f) :=
  { refl w with
    core := fun s => (w.component_changeComponent_same Component.core hcore r s).symm
    attachments := fun s =>
      (w.component_changeComponent_same (Component.attachmentsOn sides) hattachments r s).symm }

theorem hold (h : Akin premises sides w₁ w₂) (r : Ref .component) :
    Akin premises sides (w₁.hold r) (w₂.hold r) := by
  refine h.changeComponent r (fun c₁ c₂ hcore => ?_) fun _ _ hsame => hsame
  exact congrArg (fun c : Component => { c with holds := c.holds + 1 }) hcore

theorem release (h : Akin premises sides w₁ w₂) (r : Ref .component) :
    Akin premises sides (w₁.release r) (w₂.release r) := by
  refine h.changeComponent r (fun c₁ c₂ hcore => ?_) fun _ _ hsame => hsame
  exact congrArg (fun c : Component => { c with holds := c.holds - 1 }) hcore

theorem setService (h : Akin premises sides w₁ w₂) (hside : .provider ∈ sides)
    (r : Ref .service) (service : Service) :
    Akin premises sides (w₁.setService r service) (w₂.setService r service) := by
  obtain ⟨hprovider, hservice, hnext, hregistry⟩ := h.offered hside
  refine { h with offered := fun _ => ⟨hprovider, ?_, hnext, hregistry⟩ }
  funext s
  simp only [World.service_setService, hservice]

theorem setService_aside (w : World σ) (r : Ref .service) (service : Service)
    (hother : .provider ∉ sides) : Akin premises sides w (w.setService r service) :=
  { refl w with offered := fun hside => absurd hside hother }

/-- Nothing is seen behind of a component that was held. -/
theorem release_hold (w : World σ) (r : Ref .component) :
    Akin premises sides w ((w.hold r).release r) := by
  have hcomponent : ((w.hold r).release r).component = w.component :=
    World.component_release_of_hold rfl
  exact { refl w with
    core := fun s => by rw [hcomponent]
    attachments := fun s => by rw [hcomponent] }

end Akin

/-! ## Runs within a side -/

/-- A run that returns, and has no effect on the platform or on its premises. -/
def Idles (premises : σ → Premises) (m : Run σ α) : Prop :=
  ∀ w, m.Returns w fun _ => Idle premises w

/-- A run that acts on one side: what it does there depends on no other side, and on no other
is anything seen of it. -/
structure Within (premises : σ → Premises) (side : Side) (m : Run σ α) : Prop where
  meets : ∀ sides, side ∈ sides → Run.Meets (Akin premises sides) Eq m m
  aside : ∀ w, m.Returns w fun _ w' => ∀ others, side ∉ others → Akin premises others w w'

section Laws

variable {premises : σ → Premises} {side : Side}

namespace Idles

theorem pure (a : α) : Idles premises (pure a : Run σ α) :=
  fun _ => (Run.returns_pure a).mpr ⟨rfl, rfl⟩

theorem bind {m : Run σ β} {f : β → Run σ α} (hm : Idles premises m)
    (hf : ∀ b, Idles premises (f b)) : Idles premises (m >>= f) := by
  intro w
  refine (Run.returns_bind m f).mpr ((hm w).mono ?_)
  intro b u hfirst
  exact (hf b u).mono fun _ _ hsecond =>
    ⟨hsecond.1.trans hfirst.1, hsecond.2.trans hfirst.2⟩

/-- Runs that have no effect meet on all sides. -/
theorem meets {agree : α → β → Prop} {m₁ : Run σ α} {m₂ : Run σ β} (h₁ : Idles premises m₁)
    (h₂ : Idles premises m₂) (hagree : ∀ a b, agree a b) (sides : List Side) :
    Run.Meets (Akin premises sides) agree m₁ m₂ := by
  intro w₁ w₂ hakin
  refine (h₁ w₁).mono ?_
  intro a u₁ hidle₁
  refine (h₂ w₂).mono ?_
  intro b u₂ hidle₂
  exact ⟨((Akin.of_idle hidle₁).symm.trans hakin).trans (.of_idle hidle₂), hagree a b⟩

theorem within {m : Run σ Unit} (hm : Idles premises m) : Within premises side m where
  meets sides _ := hm.meets hm (fun _ _ => rfl) sides
  aside w := (hm w).mono fun _ _ hidle _ _ => .of_idle hidle

end Idles

namespace Within

theorem pure (a : α) : Within premises side (pure a : Run σ α) where
  meets _ _ := Run.meets_pure rfl
  aside w := (Run.returns_pure a).mpr fun _ _ => .refl w

theorem bind {m : Run σ β} {f : β → Run σ α} (hm : Within premises side m)
    (hf : ∀ b, Within premises side (f b)) : Within premises side (m >>= f) where
  meets sides hside := by
    apply (hm.meets sides hside).bind
    rintro b _ rfl
    exact (hf b).meets sides hside
  aside w := by
    refine (Run.returns_bind m f).mpr ((hm.aside w).mono ?_)
    intro b u hfirst
    refine ((hf b).aside u).mono ?_
    exact fun _ _ hsecond others hothers => (hfirst others hothers).trans (hsecond others hothers)

theorem forM {f : β → Run σ Unit} {items : List β}
    (hf : ∀ b ∈ items, Within premises side (f b)) : Within premises side (items.forM f) := by
  induction items with
  | nil => exact .pure ()
  | cons b rest ih =>
      apply (hf b List.mem_cons_self).bind
      exact fun _ => ih fun other hother => hf other (List.mem_cons_of_mem b hother)

theorem mapM {f : β → Run σ α} (hf : ∀ b, Within premises side (f b)) (items : List β) :
    Within premises side (items.mapM f) := by
  induction items with
  | nil => exact .pure []
  | cons b rest ih =>
      simp only [List.mapM_cons]
      exact (hf b).bind fun a => ih.bind fun others => .pure (a :: others)

/-- A single step is within a side if worlds that are akin on it stay so, and nothing is seen
of it elsewhere. -/
theorem of_step {m : Run σ α} {value : World σ → α} {f : World σ → World σ}
    (hstep : ∀ w, m.run w = some (value w, f w))
    (hakin : ∀ sides w₁ w₂, side ∈ sides → Akin premises sides w₁ w₂ →
      Akin premises sides (f w₁) (f w₂) ∧ value w₁ = value w₂)
    (haside : ∀ w others, side ∉ others → Akin premises others w (f w)) :
    Within premises side m where
  meets sides hside w₁ w₂ h := ⟨_, _, hstep w₁, _, _, hstep w₂, hakin sides w₁ w₂ hside h⟩
  aside w := ⟨_, _, hstep w, haside w⟩

/-- What is read on a side is the same in worlds that are akin on it. -/
theorem of_reads {m : Run σ α} {value : World σ → α}
    (hread : ∀ w, m.run w = some (value w, w))
    (hsame : ∀ sides w₁ w₂, side ∈ sides → Akin premises sides w₁ w₂ → value w₁ = value w₂) :
    Within premises side m :=
  of_step hread (fun sides w₁ w₂ hside h => ⟨h, hsame sides w₁ w₂ hside h⟩) fun w _ _ => .refl w

/-- Of a component only its core may be looked at. -/
theorem component_bind (r : Ref .component) {f : Component → Run σ α}
    (hcore : ∀ c, f c = f c.core) (hf : ∀ c, Within premises side (f c)) :
    Within premises side (Run.component r >>= f) where
  meets sides hside w₁ w₂ h := by
    have hsame : f (w₁.component r) = f (w₂.component r) := by
      rw [hcore, h.core, ← hcore]
    refine (Run.returns_bind _ _).mpr ⟨w₁.component r, w₁, rfl, ?_⟩
    refine ((hf (w₁.component r)).meets sides hside w₁ w₂ h).mono ?_
    intro a u₁ hends
    refine (Run.returns_bind _ _).mpr ⟨w₂.component r, w₂, rfl, ?_⟩
    rwa [hsame] at hends
  aside w := (Run.returns_bind _ _).mpr ⟨w.component r, w, rfl, (hf _).aside w⟩

/-- Of the platform only its settings may be looked at. -/
theorem platform_bind {f : Platform → Run σ α}
    (hsettings : ∀ p q : Platform, p.settings = q.settings → f p = f q)
    (hf : ∀ p, Within premises side (f p)) : Within premises side (Run.platform >>= f) where
  meets sides hside w₁ w₂ h := by
    refine (Run.returns_bind _ _).mpr ⟨w₁.platform, w₁, rfl, ?_⟩
    refine ((hf w₁.platform).meets sides hside w₁ w₂ h).mono ?_
    intro a u₁ hends
    rw [hsettings _ _ h.settings] at hends
    exact (Run.returns_bind _ _).mpr ⟨w₂.platform, w₂, rfl, hends⟩
  aside w := (Run.returns_bind _ _).mpr ⟨w.platform, w, rfl, (hf _).aside w⟩

theorem holding {m : Run σ α} (r : Ref .component) (hm : Within premises side m) :
    Within premises side (Run.holding r m) where
  meets sides hside w₁ w₂ h := by
    rw [Run.returns_holding]
    refine (hm.meets sides hside _ _ (h.hold r)).mono ?_
    intro a u₁ hends
    rw [Run.returns_holding]
    exact hends.mono fun _ _ ⟨hakin, hsame⟩ => ⟨hakin.release r, hsame⟩
  aside w := by
    rw [Run.returns_holding]
    refine (hm.aside _).mono ?_
    intro _ u hakin others hothers
    exact (Akin.release_hold w r).trans ((hakin others hothers).release r)

theorem whileAlive {r : Option (Ref .component)} {m : Ref .component → Run σ Unit}
    (hm : ∀ s, Within premises side (m s)) : Within premises side (Run.whileAlive r m) := by
  cases r with
  | none => exact .pure ()
  | some s =>
      apply component_bind s fun _ => rfl
      intro c
      split
      · exact (hm s).holding s
      · exact .pure ()

end Within

/-! ## Single steps -/

section Steps

theorem within_provider (r : Ref .provider) :
    Within premises .provider (Run.provider r : Run σ Provider) :=
  .of_reads (fun _ => rfl) fun _ _ _ hside h => congrFun (h.offered hside).1 r

theorem within_service (r : Ref .service) :
    Within premises .provider (Run.service r : Run σ Service) :=
  .of_reads (fun _ => rfl) fun _ _ _ hside h => congrFun (h.offered hside).2.1 r

theorem within_configurator (r : Ref .configurator) :
    Within premises .configurator (Run.configurator r : Run σ Configurator) :=
  .of_reads (fun _ => rfl) fun _ _ _ hside h => congrFun (h.bound hside).1 r

theorem within_property (r : Ref .property) :
    Within premises .configurator (Run.property r : Run σ ConfigurableProperty) :=
  .of_reads (fun _ => rfl) fun _ _ _ hside h => congrFun (h.bound hside).2.1 r

theorem within_caller (r : Ref .caller) :
    Within premises .caller (Run.caller r : Run σ Caller) :=
  .of_reads (fun _ => rfl) fun _ _ _ hside h => congrFun (h.seen hside) r

theorem within_changeProvider (r : Ref .provider) (f : Provider → Provider) :
    Within premises .provider (Run.changeProvider r f : Run σ Unit) := by
  apply Within.of_step (f := fun w => w.changeProvider r f) (fun _ => rfl)
  · intro sides w₁ w₂ hside h
    obtain ⟨hprovider, hservice, hnext, hregistry⟩ := h.offered hside
    refine ⟨{ h with offered := fun _ => ⟨?_, hservice, hnext, hregistry⟩ }, rfl⟩
    funext s
    simp only [World.provider_changeProvider, hprovider]
  · exact fun w others hother => { Akin.refl w with offered := fun hside => absurd hside hother }

theorem within_setService (r : Ref .service) (service : Service) :
    Within premises .provider (Run.setService r service : Run σ Unit) :=
  .of_step (f := fun w => w.setService r service) (fun _ => rfl)
    (fun _ _ _ hside h => ⟨h.setService hside r service, rfl⟩)
    fun w _ hother => .setService_aside w r service hother

theorem within_addService (service : Service) :
    Within premises .provider (Run.addService service : Run σ (Ref .service)) := by
  apply Within.of_step (f := fun w => w.addService service) (fun _ => rfl)
  · intro sides w₁ w₂ hside h
    obtain ⟨hprovider, hservice, hnext, hregistry⟩ := h.offered hside
    refine ⟨{ h with offered := fun _ => ⟨hprovider, ?_, ?_, hregistry⟩ }, hnext⟩
    · funext s
      simp only [World.service_addService, hservice, hnext]
    · exact congrArg (fun r : Ref .service => (⟨r.index + 1⟩ : Ref .service)) hnext
  · exact fun w others hother => { Akin.refl w with offered := fun hside => absurd hside hother }

theorem within_changeConfigurator (r : Ref .configurator) (f : Configurator → Configurator) :
    Within premises .configurator (Run.changeConfigurator r f : Run σ Unit) := by
  apply Within.of_step (f := fun w => w.changeConfigurator r f) (fun _ => rfl)
  · intro sides w₁ w₂ hside h
    obtain ⟨hconfigurator, hproperty, hnext, hhost⟩ := h.bound hside
    refine ⟨{ h with bound := fun _ => ⟨?_, hproperty, hnext, hhost⟩ }, rfl⟩
    funext s
    simp only [World.configurator_changeConfigurator, hconfigurator]
  · exact fun w others hother => { Akin.refl w with bound := fun hside => absurd hside hother }

theorem within_setProperty (r : Ref .property) (property : ConfigurableProperty) :
    Within premises .configurator (Run.setProperty r property : Run σ Unit) := by
  apply Within.of_step (f := fun w => w.setProperty r property) (fun _ => rfl)
  · intro sides w₁ w₂ hside h
    obtain ⟨hconfigurator, hproperty, hnext, hhost⟩ := h.bound hside
    refine ⟨{ h with bound := fun _ => ⟨hconfigurator, ?_, hnext, hhost⟩ }, rfl⟩
    funext s
    simp only [World.property_setProperty, hproperty]
  · exact fun w others hother => { Akin.refl w with bound := fun hside => absurd hside hother }

theorem within_addProperty (property : ConfigurableProperty) :
    Within premises .configurator (Run.addProperty property : Run σ (Ref .property)) := by
  apply Within.of_step (f := fun w => w.addProperty property) (fun _ => rfl)
  · intro sides w₁ w₂ hside h
    obtain ⟨hconfigurator, hproperty, hnext, hhost⟩ := h.bound hside
    refine ⟨{ h with bound := fun _ => ⟨hconfigurator, ?_, ?_, hhost⟩ }, hnext⟩
    · funext s
      simp only [World.property_addProperty, hproperty, hnext]
    · exact congrArg (fun r : Ref .property => (⟨r.index + 1⟩ : Ref .property)) hnext
  · exact fun w others hother => { Akin.refl w with bound := fun hside => absurd hside hother }

theorem within_changeCaller (r : Ref .caller) (f : Caller → Caller) :
    Within premises .caller (Run.changeCaller r f : Run σ Unit) := by
  apply Within.of_step (f := fun w => w.changeCaller r f) (fun _ => rfl)
  · intro sides w₁ w₂ hside h
    refine ⟨{ h with seen := fun _ => ?_ }, rfl⟩
    funext s
    simp only [World.caller_changeCaller, h.seen hside]
  · exact fun w others hother => { Akin.refl w with seen := fun hside => absurd hside hother }

/-- What others can see of a component is on no side. -/
theorem within_changeSurface (r : Ref .component) (f : Surface → Surface) :
    Within premises side (Component.changeSurface r f : Run σ Unit) := by
  apply Within.of_step (f := fun w => w.changeComponent r fun c =>
    { c with surface := f c.surface }) (fun _ => rfl)
  · intro sides w₁ w₂ _ h
    exact ⟨h.changeComponent r (fun _ _ hcore => hcore) fun _ _ hsame => hsame, rfl⟩
  · exact fun w others _ => .unchanged r (fun _ => rfl) fun _ => rfl

/-- A handler is registered on its side, and whether that is new is no more than logged. -/
theorem within_attach {out : Collaborators σ}
    (hlog : ∀ record t, premises (out.log record t) = premises t) (r : Ref .component)
    {handler : Handler} (hside : handler.side? = some side) (fields : List String) :
    Within premises side (Component.attach out r handler fields) := by
  have hreturns : ∀ w, (Component.attach out r handler fields).Returns w fun _ w' =>
      ∃ u, Idle premises w u ∧ w' = u.changeComponent r fun c =>
        { c with attachments := Attachment.register handler fields c.attachments } := by
    intro w
    simp only [Component.attach, Collaborators.note, Run.returns_bind, Run.returns_component]
    split
    · simp only [Run.returns_bind, Run.returns_changeSurroundings, Run.returns_changeComponent]
      exact ⟨w.changeSurroundings (out.log _), ⟨rfl, hlog _ _⟩, rfl⟩
    · exact (Run.returns_changeComponent _ _).mpr ⟨w, ⟨rfl, rfl⟩, rfl⟩
  constructor
  · intro sides hmem w₁ w₂ h
    refine (hreturns w₁).mono ?_
    rintro _ _ ⟨u₁, hidle₁, rfl⟩
    refine (hreturns w₂).mono ?_
    rintro _ _ ⟨u₂, hidle₂, rfl⟩
    have hu : Akin premises sides u₁ u₂ :=
      ((Akin.of_idle hidle₁).symm.trans h).trans (.of_idle hidle₂)
    refine ⟨hu.changeComponent r (fun _ _ hcore => hcore) fun c₁ c₂ hsame => ?_, rfl⟩
    simp only [Component.attachmentsOn, Attachment.filter_register (Handler.isOn sides),
      if_pos ((Handler.isOn_of_side hside).mpr hmem)] at hsame ⊢
    rw [hsame]
  · intro w
    refine (hreturns w).mono ?_
    rintro _ _ ⟨u, hidle, rfl⟩ others hother
    refine (Akin.of_idle hidle).trans (.unchanged r (fun _ => rfl) fun c => ?_)
    have hnot : ¬handler.isOn others = true := fun hon =>
      hother ((Handler.isOn_of_side hside).mp hon)
    simp only [Component.attachmentsOn, Attachment.filter_register (Handler.isOn others),
      if_neg hnot]

end Steps

end Laws

/-! ## Loops over handlers -/

/-- What is asked of handlers is on their sides: a guest does nothing. -/
def Sided (premises : σ → Premises) (f : Handler → Run σ Unit) : Prop :=
  ∀ handler : Handler, match handler.side? with
    | some side => Within premises side (f handler)
    | none => Idles premises (f handler)

section Loops

variable {premises : σ → Premises} {side : Side} {sides : List Side} {f : Handler → Run σ Unit}

/-- On other sides nothing is seen of what a handler does. -/
theorem Sided.aside (hf : Sided premises f) {handler : Handler}
    (hother : ¬handler.isOn sides = true) (w : World σ) :
    (f handler).Returns w fun _ w' => Akin premises sides w w' := by
  have hhandler := hf handler
  split at hhandler
  next own hown =>
    have hnot : own ∉ sides := fun hmem => hother ((Handler.isOn_of_side hown).mpr hmem)
    exact (hhandler.aside w).mono fun _ w' hakin => hakin sides hnot
  next => exact (hhandler w).mono fun _ _ hidle => .of_idle hidle

theorem Sided.within (hf : Sided premises f) {handler : Handler}
    (hside : handler.side? = some side) : Within premises side (f handler) := by
  have hhandler := hf handler
  rwa [hside] at hhandler

/-- Nothing is seen of a handler in the core of a component. -/
theorem Sided.core (hf : Sided premises f) (handler : Handler) (w : World σ) :
    (f handler).Returns w fun _ w' => ∀ r, (w'.component r).core = (w.component r).core := by
  have hnowhere : ¬handler.isOn [] = true := by simp [Handler.isOn_iff]
  exact (hf.aside hnowhere w).mono fun _ _ hakin r => (hakin.core r).symm

/-- For some sides a loop over handlers is one over the handlers of these sides. -/
theorem meets_forM_on (hf : Sided premises f) (handlers : List Handler) :
    Run.Meets (Akin premises sides) Eq (handlers.forM f) ((Handler.on sides handlers).forM f) := by
  induction handlers with
  | nil => exact Run.meets_pure rfl
  | cons handler rest ih =>
      by_cases hon : handler.isOn sides = true
      · obtain ⟨side, hmem, hside⟩ := Handler.isOn_iff.mp hon
        rw [Handler.on, List.filter_cons_of_pos hon]
        apply ((hf.within hside).meets sides hmem).bind
        exact fun _ _ _ => ih
      · rw [Handler.on, List.filter_cons_of_neg hon]
        intro w₁ w₂ h
        refine (Run.returns_bind _ _).mpr ((hf.aside hon w₁).mono ?_)
        exact fun _ u₁ hfirst => ih u₁ w₂ (hfirst.symm.trans h)

/-- For some sides loops over handlers come to the same if the handlers of these sides stand
in the same order. -/
theorem meets_forM (hf : Sided premises f) {handlers₁ handlers₂ : List Handler}
    (hsame : Handler.on sides handlers₁ = Handler.on sides handlers₂) :
    Run.Meets (Akin premises sides) Eq (handlers₁.forM f) (handlers₂.forM f) := by
  intro w₁ w₂ h
  -- Both loops are compared with the one over the handlers of the sides.
  obtain ⟨_, u₁, hrun₁, _, v, hrun, hakin₁, -⟩ := meets_forM_on hf handlers₁ w₁ w₂ h
  obtain ⟨_, u₂, hrun₂, _, v', hrun', hakin₂, -⟩ := meets_forM_on hf handlers₂ w₂ w₂ (.refl w₂)
  rw [hsame] at hrun
  cases hrun.symm.trans hrun'
  exact ⟨_, u₁, hrun₁, _, u₂, hrun₂, hakin₁.trans hakin₂.symm, rfl⟩

end Loops

end Componentry

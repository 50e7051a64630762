import Componentry.Proofs.Ensemble.Admission
import Componentry.Proofs.Registry.Memory
import Componentry.Proofs.Service.Pushing

/-!
# Steps that change only services

What becomes of services matters to nobody but the registry. So a regime that does not
look at services, nor at what the registry has to do with, stays as it is whatever the
provider does, and whether or not the registry refuses its calls.
-/

namespace Componentry

variable {σ τ α : Type}

/-- A step aside of what a view shows of the surroundings: only services have changed, and
what the view does not show. -/
structure Aside (view : σ → τ) (w w' : World σ) : Prop where
  surroundings : view w'.surroundings = view w.surroundings
  component : w'.component = w.component
  property : w'.property = w.property
  provider : w'.provider = w.provider
  configurator : w'.configurator = w.configurator
  caller : w'.caller = w.caller

/-- Collaborators whose log, event channel and registry leave what a view shows. The
registry may answer as it likes, but calls nobody back. -/
structure Discreet (view : σ → τ) (out : Collaborators σ) : Prop where
  log : ∀ record s, view (out.log record s) = view s
  announce : ∀ event s, view (out.announce event s) = view s
  register : ∀ specifications properties factory w,
    (out.register specifications properties factory).Ensures w fun _ => Idle view w
  unregister : ∀ handle w, (out.unregister handle).Ensures w fun _ => Idle view w
  update : ∀ handle properties w, (out.update handle properties).Ensures w fun _ => Idle view w

variable {view : σ → τ} {w w' : World σ}

theorem Idle.aside (h : Idle view w w') : Aside view w w' := by
  obtain ⟨hplatform, hview⟩ := h
  obtain ⟨hcomponent, -, hproperty, hprovider, hconfigurator, hcaller⟩ :=
    World.objects_of_platform hplatform
  exact ⟨hview, hcomponent, hproperty, hprovider, hconfigurator, hcaller⟩

theorem Aside.setService (w : World σ) (s : Ref .service) (service : Service) :
    Aside view w (w.setService s service) := by
  constructor <;> simp

/-- A registry in memory is discreet where the view shows neither the registry nor events. -/
theorem discreet_inMemory {registry : σ → Registry} {store : Registry → σ → σ}
    {announce : Event → σ → σ} {method : Nat → Run σ Ending}
    (hstore : ∀ after t, view (store after t) = view t)
    (hannounce : ∀ event t, view (announce event t) = view t) :
    Discreet view (.inMemory registry store announce method) := by
  have hasked : ∀ {α : Type} (ask : Registry → Except Failure (α × Registry)) (w : World σ),
      (askRegistry registry store ask).Ensures w fun _ => Idle view w := by
    intro α ask w
    simp only [askRegistry, Run.ensures_bind, Run.ensures_surroundings]
    split
    · simp only [Run.ensures_bind, Run.ensures_changeSurroundings, Run.ensures_pure]
      exact ⟨rfl, hstore _ _⟩
    · exact (Run.ensures_pure _).mpr ⟨rfl, rfl⟩
  exact
    { log := fun _ _ => rfl
      announce := hannounce
      register := fun specifications properties factory =>
        hasked (·.register specifications properties factory)
      unregister := fun handle => hasked (·.askUnregister handle)
      update := fun handle properties => hasked (·.askUpdate handle properties) }

/-- An ensemble stands as it does, whatever becomes of its services. -/
theorem Ensemble.Stands.of_aside {e : Ensemble} (hstands : e.Stands w) (h : Aside view w w') :
    e.Stands w' := by
  obtain ⟨howned, hhandlers, hholder, hregistered, hbound, hproperties, hcalled⟩ := hstands
  constructor <;> simp only [h.component, h.provider, h.configurator, h.caller] <;> assumption

namespace Regime

variable {R : Regime σ} {out : Collaborators σ} (hout : Discreet view out)
  (haside : ∀ {w w'}, Aside view w w' → R.Allows w w')
include hout haside

theorem keeps_note_aside (record : Log.Record) : R.Keeps (out.note record) := by
  intro w _
  rw [Run.ensures_note]
  exact haside (Idle.aside ⟨rfl, hout.log record _⟩)

theorem keeps_tell_aside (event : Event) : R.Keeps (out.tell event) := by
  intro w _
  rw [Run.ensures_tell]
  exact haside (Idle.aside ⟨rfl, hout.announce event _⟩)

theorem keeps_update_aside (handle : Registration) (properties : Properties) :
    R.Keeps (out.update handle properties) := by
  intro w _
  exact (hout.update handle properties w).mono fun _ _ hidle => haside hidle.aside

theorem keeps_write_aside (s : Ref .service) (field : String) (value : Value) :
    R.Keeps (Service.write out s field value) :=
  keeps_write (keeps_update_aside hout haside)
    (fun {w changed} _ _ _ => haside (.setService w s changed)) field value

theorem keeps_extend_aside (s : Ref .service) (entries : Properties) :
    R.Keeps (Service.extend out s entries) :=
  keeps_extend (keeps_update_aside hout haside)
    (fun {w changed} _ _ => haside (.setService w s changed)) entries

theorem keeps_reduce_aside (s : Ref .service) (entries : Properties) :
    R.Keeps (Service.reduce out s entries) :=
  keeps_reduce (keeps_update_aside hout haside)
    (fun {w changed} _ _ => haside (.setService w s changed)) entries

theorem keeps_register_aside (s : Ref .service) : R.Keeps (Service.register out s) := by
  apply keeps_register (keeps_update_aside hout haside)
  · intro specifications properties factory w _
    exact (hout.register _ _ _ w).mono fun _ _ hidle => haside hidle.aside
  · intro w handle _
    exact haside (.setService w s _)

theorem keeps_unregister_aside (s : Ref .service) : R.Keeps (Service.unregister out s) := by
  apply keeps_unregister
  · intro handle w _
    exact (hout.unregister handle w).mono fun _ _ hidle => haside hidle.aside
  · intro w _
    exact haside (.setService w s _)

theorem keeps_registerService_aside (className : String) (s : Ref .service) :
    R.Keeps (Provider.registerService out className s) :=
  keeps_registerService (keeps_note_aside hout haside) (keeps_tell_aside hout haside)
    (keeps_register_aside hout haside s) className

theorem keeps_unregisterService_aside (className : String) (s : Ref .service) :
    R.Keeps (Provider.unregisterService out className s) :=
  keeps_unregisterService (keeps_note_aside hout haside) (keeps_tell_aside hout haside)
    (keeps_unregister_aside hout haside s) className

end Regime

end Componentry

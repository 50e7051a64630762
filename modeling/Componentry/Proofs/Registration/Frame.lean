import Componentry.Proofs.Run.Returning
import Componentry.Proofs.Service.Frame

/-!
# Steps that change only registrations

A registration that fails leaves the service as one that succeeds does, but for the handle;
an update that fails has been committed; and no failure cuts a loop over services short. So
where the registry answers at once, whatever the provider does for the sake of the registry
changes nothing but registrations, and always comes to an end.
-/

namespace Componentry

variable {σ τ α β : Type}

/-- The service without its registration. -/
def Service.detached (service : Service) : Service := { service with registration := none }

/-- A step that nobody notices: at most registrations have changed. -/
structure Faint (view : σ → τ) (w w' : World σ) : Prop extends Aside view w w' where
  settings : w'.platform.settings = w.platform.settings
  service : ∀ r, (w'.service r).detached = (w.service r).detached
  nextService : w'.nextService = w.nextService
  nextProperty : w'.nextProperty = w.nextProperty

section Faint

variable {view : σ → τ} {u v w : World σ}

theorem Idle.faint (h : Idle view u v) : Faint view u v where
  toAside := h.aside
  settings := by rw [h.1]
  service r := by rw [(World.objects_of_platform h.1).2.1]
  nextService := by rw [World.nextService, h.1]; rfl
  nextProperty := by rw [World.nextProperty, h.1]; rfl

theorem Faint.refl (w : World σ) : Faint view w w := Idle.faint ⟨rfl, rfl⟩

theorem Faint.trans (huv : Faint view u v) (hvw : Faint view v w) : Faint view u w where
  surroundings := hvw.surroundings.trans huv.surroundings
  component := hvw.component.trans huv.component
  property := hvw.property.trans huv.property
  provider := hvw.provider.trans huv.provider
  configurator := hvw.configurator.trans huv.configurator
  caller := hvw.caller.trans huv.caller
  settings := hvw.settings.trans huv.settings
  service r := (hvw.service r).trans (huv.service r)
  nextService := hvw.nextService.trans huv.nextService
  nextProperty := hvw.nextProperty.trans huv.nextProperty

/-- Another registration of a service, or none. -/
theorem Faint.setService (w : World σ) (r : Ref .service) {service : Service}
    (hsame : service.detached = (w.service r).detached) :
    Faint view w (w.setService r service) where
  toAside := .setService w r service
  settings := rfl
  service s := by
    rw [World.service_setService]
    split
    next heq => rw [heq, hsame]
    next => rfl
  nextService := rfl
  nextProperty := rfl

/-- Nobody notices that a component was held meanwhile. -/
theorem Faint.release {r : Ref .component} (h : Faint view (w.hold r) u) :
    Faint view w (u.release r) where
  surroundings := h.surroundings
  component := by
    funext s
    have hheld := congrFun h.component s
    rw [World.hold, World.component_changeComponent] at hheld
    rw [World.release, World.component_changeComponent]
    split at hheld
    next heq =>
      cases heq
      rw [if_pos rfl, hheld]
      rfl
    next hne => rw [if_neg hne, hheld]
  property := h.property
  provider := h.provider
  configurator := h.configurator
  caller := h.caller
  settings := h.settings
  service := h.service
  nextService := h.nextService
  nextProperty := h.nextProperty

end Faint

/-! ## What nobody notices -/

/-- A run that returns from every world, and that nobody notices. -/
def Unnoticed (view : σ → τ) (m : Run σ α) : Prop := ∀ w, m.Returns w fun _ => Faint view w

/-- Collaborators whose log and registry nobody notices. The registry answers every call at
once, whatever the answer is. -/
structure Muted (view : σ → τ) (out : Collaborators σ) : Prop where
  log : ∀ record s, view (out.log record s) = view s
  registered : ∀ className specifications handle s,
    view (out.announce (.serviceRegistered className specifications handle) s) = view s
  unregistered : ∀ className specifications s,
    view (out.announce (.serviceUnregistered className specifications) s) = view s
  register : ∀ specifications properties factory w,
    (out.register specifications properties factory).Returns w fun _ => Idle view w
  unregister : ∀ handle w, (out.unregister handle).Returns w fun _ => Idle view w
  update : ∀ handle properties w, (out.update handle properties).Returns w fun _ => Idle view w
  rounds : 0 < out.rounds

namespace Unnoticed

variable {view : σ → τ}

theorem pure (a : α) : Unnoticed view (pure a : Run σ α) :=
  fun w => (Run.returns_pure a).mpr (.refl w)

theorem of_reads {m : Run σ α} {value : World σ → α} (hread : ∀ w, m.run w = some (value w, w)) :
    Unnoticed view m :=
  fun w => ⟨value w, w, hread w, .refl w⟩

theorem bind {m : Run σ β} {f : β → Run σ α} (hm : Unnoticed view m)
    (hf : ∀ b, Unnoticed view (f b)) : Unnoticed view (m >>= f) := by
  intro w
  refine (Run.returns_bind m f).mpr ((hm w).mono ?_)
  intro b u hfirst
  exact (hf b u).mono fun _ _ hsecond => hfirst.trans hsecond

theorem forM {f : β → Run σ Unit} {items : List β} (hf : ∀ b ∈ items, Unnoticed view (f b)) :
    Unnoticed view (items.forM f) := by
  induction items with
  | nil => exact .pure ()
  | cons b rest ih =>
      apply (hf b List.mem_cons_self).bind
      intro _
      exact ih fun other hother => hf other (List.mem_cons_of_mem b hother)

theorem holding {m : Run σ α} (r : Ref .component) (hm : Unnoticed view m) :
    Unnoticed view (Run.holding r m) := by
  intro w
  refine (Run.returns_holding r m).mpr ((hm (w.hold r)).mono ?_)
  exact fun _ _ hfaint => hfaint.release

theorem whileAlive {r : Option (Ref .component)} {m : Ref .component → Run σ Unit}
    (hm : ∀ s, Unnoticed view (m s)) : Unnoticed view (Run.whileAlive r m) := by
  cases r with
  | none => exact .pure ()
  | some s =>
      apply bind (.of_reads fun _ => rfl)
      intro c
      split
      · exact (hm s).holding s
      · exact .pure ()

end Unnoticed

section Registry

variable {view : σ → τ} {out : Collaborators σ} (hout : Muted view out)
include hout

theorem unnoticed_note (record : Log.Record) : Unnoticed view (out.note record) := by
  intro w
  rw [Collaborators.note, Run.returns_changeSurroundings]
  exact Idle.faint ⟨rfl, hout.log record _⟩

theorem unnoticed_noteAll (records : List Log.Record) : Unnoticed view (out.noteAll records) :=
  .forM fun record _ => unnoticed_note hout record

theorem unnoticed_noteCaught (component operation : String) (failure : Failure)
    (context : Option String) :
    Unnoticed view (out.noteCaught component operation failure context) :=
  unnoticed_note hout _

/-- One update is enough if nothing changes while the registry is called. -/
theorem returns_push (r : Ref .service) {pending : Option Update} {w : World σ}
    (hpending : ∀ update ∈ pending, update.revision = (w.service r).revision) :
    (Service.push out r out.rounds pending).Returns w fun _ => Idle view w := by
  obtain ⟨rounds, hrounds⟩ := Nat.exists_eq_succ_of_ne_zero (Nat.ne_of_gt hout.rounds)
  rw [hrounds]
  cases pending with
  | none =>
      simp only [Service.push, Run.returns_pure]
      exact ⟨rfl, rfl⟩
  | some update =>
      simp only [Service.push, Run.returns_bind, Run.returns_service]
      refine (hout.update _ _ w).mono ?_
      intro pushed u hidle
      have hrevision : (u.service r).revision = update.revision := by
        rw [(World.objects_of_platform hidle.1).2.1, hpending update rfl]
      split
      · exact (Run.returns_pure _).mpr hidle
      · split
        · exact (Run.returns_pure _).mpr hidle
        · rw [if_neg (not_not.mpr hrevision)]
          cases rounds <;> simpa only [Service.push, Run.returns_pure] using hidle

/-- A changed service is kept, whether or not the registry takes the update. -/
theorem returns_commit (r : Ref .service) (changed : Service) (w : World σ) :
    (Service.commit out r changed).Returns w fun _ => Idle view (w.setService r changed) := by
  simp only [Service.commit, Run.returns_bind, Run.returns_setService]
  apply returns_push hout
  intro update hupdate
  obtain ⟨handle, -, rfl⟩ := Option.map_eq_some_iff.mp hupdate
  simp

theorem unnoticed_register (r : Ref .service) : Unnoticed view (Service.register out r) := by
  intro w
  simp only [Service.register, Run.returns_bind, Run.returns_service]
  split
  · exact (Run.returns_pure _).mpr (.refl w)
  · rw [Run.returns_bind]
    refine (hout.register _ _ _ w).mono ?_
    rintro answer u hidle
    cases answer with
    | error failure => exact (Run.returns_pure _).mpr hidle.faint
    | ok handle =>
        have hservice : u.service = w.service := (World.objects_of_platform hidle.1).2.1
        simp only [Run.returns_bind, Run.returns_service, Run.returns_setService, hservice,
          ne_eq, not_true_eq_false, if_false, Run.returns_pure]
        refine (returns_push hout r (by simp)).mono ?_
        intro _ w' hpushed
        have hset :
            Faint view u (u.setService r { w.service r with registration := some handle }) :=
          .setService u r (by rw [hservice]; rfl)
        exact (hidle.faint.trans hset).trans hpushed.faint

theorem unnoticed_unregister (r : Ref .service) : Unnoticed view (Service.unregister out r) := by
  intro w
  simp only [Service.unregister, Run.returns_bind, Run.returns_service]
  split
  · exact (Run.returns_pure _).mpr (.refl w)
  next handle _ =>
    have hset : Faint view w (w.setService r { w.service r with registration := none }) :=
      .setService w r rfl
    simp only [Run.returns_bind, Run.returns_setService, Run.returns_pure]
    refine (hout.unregister handle _).mono ?_
    exact fun _ _ hidle => hset.trans hidle.faint

theorem unnoticed_registerService (className : String) (r : Ref .service) :
    Unnoticed view (Provider.registerService out className r) := by
  apply Unnoticed.bind (.of_reads fun _ => rfl)
  intro service
  apply (unnoticed_register hout r).bind
  intro answer
  split
  · apply (unnoticed_note hout _).bind
    intro _
    apply Unnoticed.bind (.of_reads fun _ => rfl)
    intro registered w
    rw [Collaborators.tell, Run.returns_changeSurroundings]
    exact Idle.faint ⟨rfl, hout.registered _ _ _ _⟩
  · exact .pure ()
  · exact unnoticed_noteCaught hout _ _ _ _

theorem unnoticed_unregisterService (className : String) (r : Ref .service) :
    Unnoticed view (Provider.unregisterService out className r) := by
  apply Unnoticed.bind (.of_reads fun _ => rfl)
  intro service
  apply (unnoticed_unregister hout r).bind
  intro answer
  split
  · apply (unnoticed_note hout _).bind
    intro _ w
    rw [Collaborators.tell, Run.returns_changeSurroundings]
    exact Idle.faint ⟨rfl, hout.unregistered _ _ _⟩
  · exact .pure ()
  · exact unnoticed_noteCaught hout _ _ _ _

/-- Registering all services goes unnoticed: a failure is logged, and the next service is
registered. -/
theorem unnoticed_registerAll (r : Ref .provider) (component : Ref .component) :
    Unnoticed view (Provider.registerAll out r component) := by
  apply Unnoticed.bind (.of_reads fun _ => rfl)
  intro c
  apply Unnoticed.bind (.of_reads fun _ => rfl)
  exact fun provider => .forM fun s _ => unnoticed_registerService hout _ s

theorem unnoticed_unregisterAll (r : Ref .provider) (component : Ref .component) :
    Unnoticed view (Provider.unregisterAll out r component) := by
  apply Unnoticed.bind (.of_reads fun _ => rfl)
  intro c
  apply Unnoticed.bind (.of_reads fun _ => rfl)
  exact fun provider => .forM fun s _ => unnoticed_unregisterService hout _ s

theorem unnoticed_provider_start (r : Ref .provider) : Unnoticed view (Provider.start out r) := by
  apply Unnoticed.bind (.of_reads fun _ => rfl)
  intro provider
  apply Unnoticed.whileAlive
  intro component
  apply Unnoticed.bind (.of_reads fun _ => rfl)
  intro c
  split
  · exact unnoticed_registerAll hout r component
  · exact .pure ()

theorem unnoticed_provider_stop (r : Ref .provider) : Unnoticed view (Provider.stop out r) := by
  apply Unnoticed.bind (.of_reads fun _ => rfl)
  exact fun provider => .whileAlive fun component => unnoticed_unregisterAll hout r component

theorem unnoticed_provider_stateChanged (r : Ref .provider) (state : Validity) :
    Unnoticed view (Provider.stateChanged out r state) := by
  apply Unnoticed.bind (.of_reads fun _ => rfl)
  intro provider
  apply Unnoticed.whileAlive
  intro component
  cases state with
  | valid => exact unnoticed_registerAll hout r component
  | invalid => exact unnoticed_unregisterAll hout r component

end Registry

end Componentry

import Componentry.Engine.Providing
import Componentry.Proofs.Run.Turn

/-!
# Changes that are pushed

A changed service is put in place and then told to the registry, as often as it takes. A
regime that the change and every update of the registry stay in is one that the whole
stays in. So it is with a registration that is held, or given up, and with the call of the
registry that goes with it. A provider notes and announces what has become of it.
-/

namespace Componentry.Regime

variable {σ : Type} {R : Regime σ} {out : Collaborators σ} {w : World σ} {s : Ref .service}

section Push

variable (hupdate : ∀ handle properties, R.Keeps (out.update handle properties))
include hupdate

theorem keeps_push (rounds : Nat) (pending : Option Update) :
    R.Keeps (Service.push out s rounds pending) := by
  induction rounds generalizing pending with
  | zero =>
      cases pending with
      | none => exact keeps_pure _
      | some update => exact keeps_giveUp
  | succ rounds ih =>
      cases pending with
      | none => exact keeps_pure _
      | some update =>
          refine (hupdate _ _).bind fun pushed => (keeps_service s).bind fun service => ?_
          split
          · exact keeps_pure _
          · split
            · exact keeps_pure _
            · exact ih _

theorem ensures_commit {changed : Service} (hw : R.holds w)
    (hchanged : R.Allows w (w.setService s changed)) :
    (Service.commit out s changed).Ensures w fun _ => R.Allows w := by
  simp only [Service.commit, Run.ensures_bind, Run.ensures_setService]
  exact hchanged.then hw (keeps_push hupdate _ _)

theorem keeps_register
    (hregister : ∀ specifications properties factory,
      R.Keeps (out.register specifications properties factory))
    (hset : ∀ {w} handle, R.holds w →
      R.Allows w (w.setService s { w.service s with registration := some handle })) :
    R.Keeps (Service.register out s) := by
  refine (keeps_service s).bind fun service => ?_
  split
  · exact keeps_pure _
  · refine (hregister _ _ _).bind fun answer => ?_
    split
    · exact keeps_pure _
    next handle =>
      intro w hw
      simp only [Run.ensures_bind, Run.ensures_service, Run.ensures_setService]
      rw [← Run.ensures_bind]
      exact (hset handle hw).then hw ((keeps_push hupdate _ _).bind fun _ => keeps_pure _)

theorem keeps_write
    (hset : ∀ {w changed}, R.holds w → (w.service s).Revised changed →
      changed.extras = (w.service s).extras → R.Allows w (w.setService s changed))
    (field : String) (value : Value) : R.Keeps (Service.write out s field value) := by
  intro w hw
  simp only [Service.write, Run.ensures_bind, Run.ensures_service]
  split
  next => exact (Run.ensures_pure _).mpr (.refl w)
  next changed hwritten =>
    obtain ⟨hrevised, hextras⟩ := Service.written?_eq_some hwritten
    simp only [Run.ensures_bind, Run.ensures_pure]
    exact ensures_commit hupdate hw (hset hw hrevised hextras)

variable
  (hset : ∀ {w changed}, R.holds w → (w.service s).Revised changed →
    R.Allows w (w.setService s changed))
include hset

theorem keeps_extend (entries : Properties) : R.Keeps (Service.extend out s entries) := by
  intro w hw
  simp only [Service.extend, Run.ensures_bind, Run.ensures_service]
  split
  next => exact (Run.ensures_pure _).mpr (.refl w)
  next changed hextended =>
    exact ensures_commit hupdate hw (hset hw (Service.extended?_eq_some hextended).1)

theorem keeps_reduce (entries : Properties) : R.Keeps (Service.reduce out s entries) := by
  intro w hw
  simp only [Service.reduce, Run.ensures_bind, Run.ensures_service]
  split
  next => exact (Run.ensures_pure _).mpr (.refl w)
  next changed hreduced =>
    exact ensures_commit hupdate hw (hset hw (Service.reduced?_eq_some hreduced).1)

end Push

theorem keeps_unregister (hunregister : ∀ handle, R.Keeps (out.unregister handle))
    (hset : ∀ {w}, R.holds w →
      R.Allows w (w.setService s { w.service s with registration := none })) :
    R.Keeps (Service.unregister out s) := by
  intro w hw
  simp only [Service.unregister, Run.ensures_bind, Run.ensures_service]
  split
  · exact (Run.ensures_pure _).mpr (.refl w)
  · rw [Run.ensures_bind, Run.ensures_setService]
    exact (hset hw).then hw ((hunregister _).bind fun _ => keeps_pure _)

section Telling

variable (hnote : ∀ record, R.Keeps (out.note record))
include hnote

/-- Registering a service announces nothing else. -/
theorem keeps_registerService_telling {className : String}
    (htell : ∀ specifications registration,
      R.Keeps (out.tell (.serviceRegistered className specifications registration)))
    (hregister : R.Keeps (Service.register out s)) :
    R.Keeps (Provider.registerService out className s) := by
  refine (keeps_service s).bind fun service => hregister.bind fun answer => ?_
  split
  · exact (hnote _).bind fun _ => (keeps_service s).bind fun _ => htell _ _
  · exact keeps_pure ()
  · exact hnote _

/-- Taking back the registration of a service announces nothing else. -/
theorem keeps_unregisterService_telling {className : String}
    (htell : ∀ specifications,
      R.Keeps (out.tell (.serviceUnregistered className specifications)))
    (hunregister : R.Keeps (Service.unregister out s)) :
    R.Keeps (Provider.unregisterService out className s) := by
  refine (keeps_service s).bind fun service => hunregister.bind fun answer => ?_
  split
  · exact (hnote _).bind fun _ => htell _
  · exact keeps_pure ()
  · exact hnote _

variable (htell : ∀ event, R.Keeps (out.tell event))
include htell

theorem keeps_registerService (hregister : R.Keeps (Service.register out s)) (className : String) :
    R.Keeps (Provider.registerService out className s) :=
  keeps_registerService_telling hnote (fun _ _ => htell _) hregister

theorem keeps_unregisterService (hunregister : R.Keeps (Service.unregister out s))
    (className : String) : R.Keeps (Provider.unregisterService out className s) :=
  keeps_unregisterService_telling hnote (fun _ => htell _) hunregister

end Telling

end Componentry.Regime

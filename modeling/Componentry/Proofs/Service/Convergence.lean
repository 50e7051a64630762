import Componentry.Engine.Registering
import Componentry.Proofs.Service.Offer

/-!
# The registry converges to the service

A registry may call back into the service while it is asked for something: it may write
fields, propagate entries, register the service and take its registration back, before
or after it does what it was asked for. The service is in step when the record of the
handle that it holds shows its visible properties. It is in step at the end of every
operation, however deep operations were nested in it.

Two things carry the proof. A handle that the service has given up never comes back to
it, so the records of all handles but the one held at the beginning stay as they are or
are new. And while nothing visible has changed the revision has not either, so an update
that finds the revision that it has sent was the newest.
-/

namespace Componentry.Service

variable {σ α : Type}

/-- What can be asked of a service. -/
inductive Operation
  | write (field : String) (value : Value)
  | extend (entries : Properties)
  | reduce (entries : Properties)
  | register
  | unregister

/-- Run an operation of a service. -/
def Operation.run (out : Collaborators σ) (r : Ref .service) : Operation → Run σ Unit
  | write field value => (fun _ => ()) <$> Service.write out r field value
  | extend entries => (fun _ => ()) <$> Service.extend out r entries
  | reduce entries => (fun _ => ()) <$> Service.reduce out r entries
  | register => (fun _ => ()) <$> Service.register out r
  | unregister => (fun _ => ()) <$> Service.unregister out r

/-- A world in which an operation of the service ends. -/
def Operates (r : Ref .service) (out : Collaborators σ) (w w' : World σ) : Prop :=
  ∃ operation : Operation, (operation.run out r).run w = some ((), w')

/-- A call of the registry with a turn before and a turn behind. -/
def Interrupted (registry : σ → Registry) (callbacks : World σ → World σ → Prop)
    (ask : Registry → Except Failure (α × Registry)) (call : Run σ (Except Failure α)) : Prop :=
  ∀ w, call.Ensures w fun answer w' =>
    ∃ u v, Turn (Idle registry) callbacks w u ∧ Answers registry ask u v answer ∧
      Turn (Idle registry) callbacks v w'

/-- Collaborators whose registry is the one in the surroundings, with turns around every
call. -/
structure Interrupting (registry : σ → Registry) (callbacks : World σ → World σ → Prop)
    (out : Collaborators σ) : Prop where
  register : ∀ specifications properties factory,
    Interrupted registry callbacks (·.register specifications properties factory)
      (out.register specifications properties factory)
  unregister : ∀ handle,
    Interrupted registry callbacks (·.askUnregister handle) (out.unregister handle)
  update : ∀ handle properties,
    Interrupted registry callbacks (·.askUpdate handle properties) (out.update handle properties)

theorem snapshot_eq_some {service : Service} {update : Update}
    (hsnapshot : service.snapshot = some update) :
    service.registration = some update.handle ∧ update.properties = service.visible ∧
      update.revision = service.revision := by
  obtain ⟨handle, hheld, rfl⟩ := Option.map_eq_some_iff.mp hsnapshot
  exact ⟨hheld, rfl, rfl⟩

open Offer

variable (registry : σ → Registry) (r : Ref .service)

/-- The service of a reference with the registry in the surroundings. -/
def offer (w : World σ) : Offer := ⟨w.service r, registry w.surroundings⟩

/-- The regime of operations on a service. -/
def converging : Regime σ where
  holds w := (offer registry r w).Accounted
  leads w w' := (offer registry r w).Leads (offer registry r w')
  refl _ := .refl _
  trans := .trans

/-- The end of an operation that has told the registry all there is to tell. -/
def Settles (w w' : World σ) : Prop :=
  (offer registry r w').Accounted ∧ (offer registry r w).Progress (offer registry r w') ∧
    (offer registry r w').InStep

variable {registry r} {u v w w' : World σ}

theorem service_of_platform (hplatform : v.platform = u.platform) : v.service = u.service :=
  (World.objects_of_platform hplatform).2.1

@[simp] theorem offer_setService (service : Service) :
    offer registry r (w.setService r service) = ⟨service, registry w.surroundings⟩ := by
  simp [offer]

theorem offer_setRegistration (registration : Option Registration) :
    offer registry r (w.setRegistration r registration) =
      ⟨{ w.service r with registration := registration }, registry w.surroundings⟩ := by
  simp [World.setRegistration]

theorem offer_idle (hidle : Idle registry u v) : offer registry r v = offer registry r u := by
  unfold offer
  rw [service_of_platform hidle.1, hidle.2]

theorem allows_idle (hidle : Idle registry u v) : (converging registry r).Allows u v := by
  intro hu
  simp only [converging] at hu ⊢
  rw [offer_idle hidle]
  exact ⟨hu, .refl _⟩

theorem Settles.allowed (hsettles : Settles registry r u v) :
    (converging registry r).Allows u v :=
  fun _ => ⟨hsettles.1, hsettles.2.1, .inl hsettles.2.2⟩

theorem Settles.behind (hprogress : (offer registry r u).Progress (offer registry r v))
    (hsettles : Settles registry r v w) : Settles registry r u w :=
  ⟨hsettles.1, hprogress.trans hsettles.2.1, hsettles.2.2⟩

/-- What is known when the registry has answered to an update of a handle that the service
has held before. -/
theorem updated_offer {handle : Registration} {properties : Properties}
    {answer : Except Failure Unit} (hheld : (w.service r).registration = some handle)
    (hu : (offer registry r u).Accounted) (hleads : (offer registry r w).Leads (offer registry r u))
    (hanswer : Answers registry (·.askUpdate handle properties) u v answer) :
    (offer registry r v).Accounted ∧ (offer registry r w).Progress (offer registry r v) ∧
      ((v.service r).registration ≠ some handle → (offer registry r v).InStep) ∧
      ((v.service r).registration = some handle → answer = .ok () ∧
        ∃ record, (registry v.surroundings).record? handle = some record ∧
          record.properties = properties) := by
  have hinStep : (u.service r).registration ≠ some handle → (offer registry r u).InStep := by
    intro hother
    rcases hleads.settled with hstep | hsame
    · exact hstep
    · exact absurd (hsame.registration.trans hheld) hother
  cases hanswer with
  | served hplatform hask =>
      have hupdate := Registry.askUpdate_ok hask
      have hrecord := Registry.record?_update hupdate
      have hcount := (Registry.update_ok hupdate).2.2
      have hservice := congrFun (service_of_platform hplatform) r
      have hoffer : offer registry r v = ⟨u.service r, registry v.surroundings⟩ := by
        rw [offer, hservice]
      have hothers : ∀ other, other ≠ handle →
          (registry v.surroundings).record? other = (registry u.surroundings).record? other := by
        intro other hother
        rw [hrecord, if_neg hother]
      rw [hoffer, hservice]
      refine ⟨hu.update hupdate, hleads.progress.answered hcount hheld hothers, ?_, ?_⟩
      · intro hother
        exact (hinStep hother).answered hother hothers
      · intro hstill
        obtain ⟨record, hbefore⟩ := Option.isSome_iff_exists.mp (hu.live handle hstill)
        refine ⟨rfl, { record with properties := properties }, ?_, rfl⟩
        rw [hrecord, if_pos rfl]
        exact congrArg (Option.map _) hbefore
  | refused hidle hask =>
      have hoffer := offer_idle (r := r) hidle
      have hservice := congrArg Offer.service hoffer
      rw [hoffer, show v.service r = u.service r from hservice]
      refine ⟨hu, hleads.progress, hinStep, fun hstill => ?_⟩
      have hknown := hu.live handle hstill
      rw [show (offer registry r u).registry = registry u.surroundings from rfl,
        Registry.askUpdate_error hask] at hknown
      cases hknown

section Layer

variable {out : Collaborators σ} {callbacks : World σ → World σ → Prop}

theorem Interrupted.ensures {ask : Registry → Except Failure (α × Registry)}
    {call : Run σ (Except Failure α)} (hcall : Interrupted registry callbacks ask call)
    (hcallbacks : ∀ w w', callbacks w w' → (converging registry r).Allows w w') (w : World σ) :
    call.Ensures w fun answer w' =>
      ∃ u v, (converging registry r).Allows w u ∧ Answers registry ask u v answer ∧
        (converging registry r).Allows v w' := by
  refine (hcall w).mono ?_
  rintro answer w' ⟨u, v, hbefore, hanswer, hbehind⟩
  exact ⟨u, v, .of_turn (fun _ _ => allows_idle) hcallbacks hbefore, hanswer,
    .of_turn (fun _ _ => allows_idle) hcallbacks hbehind⟩

variable (hcallbacks : ∀ w w', callbacks w w' → (converging registry r).Allows w w')
  (hout : Interrupting registry callbacks out)
include hcallbacks hout

/-- An update of a handle that the service holds. At the end it may hold the handle still:
then the update has succeeded, and the service is in step unless its revision has
changed. Or it has lost the handle, and then it is in step. -/
theorem ensures_update {update : Update} (hw : (converging registry r).holds w)
    (hsnapshot : (w.service r).snapshot = some update) :
    (out.update update.handle update.properties).Ensures w fun answer w' =>
      (offer registry r w').Accounted ∧ (offer registry r w).Progress (offer registry r w') ∧
        ((w'.service r).registration ≠ some update.handle → (offer registry r w').InStep) ∧
        ((w'.service r).registration = some update.handle → answer = .ok () ∧
          ((w'.service r).revision = update.revision → (offer registry r w').InStep)) := by
  obtain ⟨hheld, hproperties, hrevision⟩ := snapshot_eq_some hsnapshot
  have hreached := hw.number_le hheld
  refine ((hout.update _ _).ensures hcallbacks w).mono ?_
  rintro answer w' ⟨u, v, hbefore, hanswer, hbehind⟩
  obtain ⟨hu, hfirst⟩ := hbefore hw
  obtain ⟨hv, hprogress, hlost, hkept⟩ := updated_offer hheld hu hfirst hanswer
  obtain ⟨hw', hsecond⟩ := hbehind hv
  refine ⟨hw', hprogress.trans hsecond.progress, ?_, ?_⟩
  · intro hother
    rcases hsecond.settled with hstep | hsame
    · exact hstep
    · have hother' : (v.service r).registration ≠ some update.handle := by
        rw [← show _ = (v.service r).registration from hsame.registration]
        exact hother
      exact (hlost hother').of_untouched hsecond.progress hsame
  · intro hstill
    -- A handle that is given up does not come back, so it was held all the time.
    have hstill' : (v.service r).registration = some update.handle := by
      apply Decidable.byContradiction
      intro hother
      exact hsecond.progress.not_held (Nat.le_trans hreached hprogress.registrations) hother hstill
    obtain ⟨hserved, record, hrecord, hshown⟩ := hkept hstill'
    refine ⟨hserved, fun hsent => ?_⟩
    rcases hsecond.settled with hstep | hsame
    · exact hstep
    · intro handle hhandle
      cases hstill.symm.trans hhandle
      refine ⟨record, (hsame.record _ hstill').trans hrecord, ?_⟩
      rw [hshown, hproperties]
      exact ((hprogress.trans hsecond.progress).visible (hsent.trans hrevision)).symm

/-- Updates are sent until the registry knows the newest revision. -/
theorem ensures_push (rounds : Nat) {pending : Option Update} {w : World σ}
    (hw : (converging registry r).holds w)
    (hsnapshot : ∀ update, pending = some update → (w.service r).snapshot = some update)
    (hsettled : pending = none → (offer registry r w).InStep) :
    (push out r rounds pending).Ensures w fun _ => Settles registry r w := by
  -- Each round starts from the world that the last one has left.
  induction rounds generalizing pending w with
  | zero =>
      cases pending with
      | none => exact (Run.ensures_pure _).mpr ⟨hw, .refl _, hsettled rfl⟩
      | some update => exact Run.ensures_giveUp
  | succ rounds ih =>
      cases pending with
      | none => exact (Run.ensures_pure _).mpr ⟨hw, .refl _, hsettled rfl⟩
      | some update =>
          simp only [push, Run.ensures_bind, Run.ensures_service]
          refine (ensures_update hcallbacks hout hw (hsnapshot update rfl)).mono ?_
          rintro answer w' ⟨hw', hprogress, hlost, hkept⟩
          split
          next hother => exact (Run.ensures_pure _).mpr ⟨hw', hprogress, hlost hother⟩
          next hheld =>
            obtain ⟨rfl, hsent⟩ := hkept (Decidable.not_not.mp hheld)
            refine (ih hw' ?_ ?_).mono fun _ _ hsettles => hsettles.behind hprogress
            · intro next hnext
              split at hnext
              next => exact hnext
              next => cases hnext
            · intro hnone
              split at hnone
              next => exact inStep_of_unregistered (Option.map_eq_none_iff.mp hnone)
              next hrevision => exact hsent (Decidable.not_not.mp hrevision)

/-- A change of what is visible, made at a new revision, ends with the registry told. -/
theorem ensures_commit {changed : Service} (hw : (converging registry r).holds w)
    (hrevised : (w.service r).Revised changed) :
    (commit out r changed).Ensures w fun _ => Settles registry r w := by
  have hregistration := hrevised.registration
  have hrevision := hrevised.revision
  simp only [commit, Run.ensures_bind, Run.ensures_setService]
  have hservice : (w.setService r changed).service r = changed := by simp
  have hoffer : offer registry r (w.setService r changed) = ⟨changed, registry w.surroundings⟩ := by
    simp [offer]
  have hprogress : (offer registry r w).Progress (offer registry r (w.setService r changed)) := by
    rw [hoffer]
    refine ⟨Nat.le_refl _, ?_, ?_, ?_, fun _ _ _ => rfl⟩
    · rw [hrevision]
      exact Nat.le_succ _
    · intro hsame
      rw [show changed.revision = (w.service r).revision from hsame] at hrevision
      omega
    · intro handle hheld
      exact .inl (hregistration.symm.trans hheld)
  refine (ensures_push hcallbacks hout out.rounds ?_ ?_ ?_).mono
    fun _ _ hsettles => hsettles.behind hprogress
  · simp only [converging, hoffer]
    exact ⟨hw.numbered, fun handle hheld => hw.live handle (hregistration.symm.trans hheld)⟩
  · intro update hupdate
    rw [hservice, hupdate]
  · intro hnone
    rw [hoffer]
    exact inStep_of_unregistered (Option.map_eq_none_iff.mp hnone)

theorem keeps_write (field : String) (value : Value) :
    (converging registry r).Keeps (write out r field value) := by
  intro w hw
  simp only [write, Run.ensures_bind, Run.ensures_service]
  split
  next => exact (Run.ensures_pure _).mpr (.refl w)
  next changed hwritten =>
    simp only [Run.ensures_bind, Run.ensures_pure]
    exact (ensures_commit hcallbacks hout hw (written?_eq_some hwritten).1).mono
      fun _ _ => Settles.allowed

theorem keeps_extend (entries : Properties) :
    (converging registry r).Keeps (extend out r entries) := by
  intro w hw
  simp only [extend, Run.ensures_bind, Run.ensures_service]
  split
  next => exact (Run.ensures_pure _).mpr (.refl w)
  next changed hextended =>
    exact (ensures_commit hcallbacks hout hw (extended?_eq_some hextended).1).mono
      fun _ _ => Settles.allowed

theorem keeps_reduce (entries : Properties) :
    (converging registry r).Keeps (reduce out r entries) := by
  intro w hw
  simp only [reduce, Run.ensures_bind, Run.ensures_service]
  split
  next => exact (Run.ensures_pure _).mpr (.refl w)
  next changed hreduced =>
    exact (ensures_commit hcallbacks hout hw (reduced?_eq_some hreduced).1).mono
      fun _ _ => Settles.allowed

/-- The new handle is recorded over whatever the service has come to hold meanwhile, and
what has changed since the registry was called is sent behind. -/
theorem keeps_register : (converging registry r).Keeps (register out r) := by
  intro w hw
  simp only [register, Run.ensures_bind, Run.ensures_service]
  split
  next => exact (Run.ensures_pure _).mpr (.refl w)
  next hfree =>
    rw [Run.ensures_bind]
    refine ((hout.register _ _ _).ensures hcallbacks w).mono ?_
    rintro answer w' ⟨u, v, hbefore, hanswer, hbehind⟩
    obtain ⟨hu, hfirst⟩ := hbefore hw
    cases hanswer with
    | refused hidle hask =>
        exact (Run.ensures_pure _).mpr (hbefore.trans ((allows_idle hidle).trans hbehind))
    | @served handle hplatform hregister =>
        have hservice := congrFun (service_of_platform hplatform) r
        have hoffer : offer registry r v = ⟨u.service r, registry v.surroundings⟩ := by
          rw [offer, hservice]
        have hv : (offer registry r v).Accounted := by
          rw [hoffer]
          exact hu.register hregister
        have hmiddle : (offer registry r w).Leads (offer registry r v) := by
          rw [hoffer]
          exact hfirst.trans (.register hu hregister)
        obtain ⟨hw', hlast⟩ := hbehind hv
        -- The handle is newer than any that the service can have held when it was made.
        have hnumber := Registry.number_of_register hregister
        have hcount := (Registry.register_ok hregister).2.2
        have hgrown : (registry w.surroundings).registrations ≤
            (registry u.surroundings).registrations :=
          hfirst.progress.registrations
        have hunheld : (v.service r).registration ≠ some handle := by
          rw [hservice]
          intro hheld
          have hle : handle.number ≤ (registry u.surroundings).registrations := hu.number_le hheld
          omega
        obtain ⟨haccounted, hprogress, hinStep⟩ := Offer.recorded
          hmiddle.progress hlast.progress hw'
          ((Registry.record?_register hu.numbered hregister handle).trans (if_pos rfl)) rfl
          (show (registry w.surroundings).registrations < _ by omega)
          (show _ ≤ (registry v.surroundings).registrations by omega) hunheld
        have htaken : offer registry r (w'.setRegistration r (some handle)) =
            ⟨{ w'.service r with registration := some handle }, registry w'.surroundings⟩ :=
          offer_setRegistration (some handle)
        simp only [Run.ensures_bind, Run.ensures_service, Run.ensures_setService, Run.ensures_pure]
        change (push out r _ _).Ensures (w'.setRegistration r (some handle)) _
        refine (ensures_push hcallbacks hout out.rounds ?_ ?_ ?_).mono
          fun _ _ hsettles => (hsettles.behind ?_).allowed
        · simp only [converging, htaken]
          exact haccounted
        · intro update hupdate
          split at hupdate
          next => rw [World.setRegistration, World.service_setService, if_pos rfl, hupdate]
          next => cases hupdate
        · intro hnone
          split at hnone
          next => cases hnone
          next hrevision =>
            rw [htaken]
            exact hinStep (Decidable.not_not.mp hrevision)
        · rw [htaken]
          exact hprogress

/-- The handle is given up before the registry is called, so the service may come to
hold another one meanwhile, and the record of that one stays. -/
theorem keeps_unregister : (converging registry r).Keeps (unregister out r) := by
  intro w hw
  simp only [unregister, Run.ensures_bind, Run.ensures_service]
  split
  next => exact (Run.ensures_pure _).mpr (.refl w)
  next handle hheld =>
    simp only [Run.ensures_bind, Run.ensures_setService, Run.ensures_pure]
    have hreached : handle.number ≤ (registry w.surroundings).registrations := hw.number_le hheld
    have hgiven : offer registry r (w.setRegistration r none) =
        ⟨{ w.service r with registration := none }, registry w.surroundings⟩ :=
      offer_setRegistration none
    have hstart : (converging registry r).holds (w.setRegistration r none) := by
      simp only [converging, hgiven]
      exact .of_unregistered hw.numbered rfl
    have hfirst : (offer registry r w).Leads (offer registry r (w.setRegistration r none)) := by
      rw [hgiven]
      refine ⟨⟨Nat.le_refl _, Nat.le_refl _, fun _ => rfl, ?_, fun _ _ _ => rfl⟩,
        .inl (inStep_of_unregistered rfl)⟩
      intro held hnone
      cases hnone
    refine ((hout.unregister handle).ensures hcallbacks (w.setRegistration r none)).mono ?_
    rintro answer w' ⟨u, v, hbefore, hanswer, hbehind⟩
    obtain ⟨hu, hsecond⟩ := hbefore hstart
    have hleads := hfirst.trans hsecond
    refine Regime.Allows.trans ?_ hbehind
    intro _
    cases hanswer with
    | refused hidle hask =>
        simp only [converging, offer_idle hidle]
        exact ⟨hu, hleads⟩
    | served hplatform hask =>
        have hunregister := Registry.askUnregister_ok hask
        have hunheld : (u.service r).registration ≠ some handle := by
          refine hsecond.progress.not_held ?_ ?_
          · rw [hgiven]
            exact hreached
          · rw [hgiven]
            exact fun hnone => by cases hnone
        have hinStep : (offer registry r u).InStep := by
          refine Offer.InStep.of_leads ?_ hsecond
          rw [hgiven]
          exact inStep_of_unregistered rfl
        have hoffer : offer registry r v = ⟨u.service r, registry v.surroundings⟩ := by
          rw [offer, congrFun (service_of_platform hplatform) r]
        have hothers := Registry.record?_unregister hunregister
        simp only [converging, hoffer]
        exact ⟨hu.unregister hunregister hunheld,
          hleads.progress.answered (Registry.unregister_ok hunregister).2.2 hheld hothers,
          .inl (hinStep.answered hunheld hothers)⟩

theorem keeps_operation (operation : Operation) :
    (converging registry r).Keeps (operation.run out r) := by
  cases operation with
  | write field value => exact (keeps_write hcallbacks hout field value).map _
  | extend entries => exact (keeps_extend hcallbacks hout entries).map _
  | reduce entries => exact (keeps_reduce hcallbacks hout entries).map _
  | register => exact (keeps_register hcallbacks hout).map _
  | unregister => exact (keeps_unregister hcallbacks hout).map _

end Layer

variable {out : Collaborators σ}

theorem allows_operates (hout : Layered (Operates r) (Interrupting registry) out)
    (hoperates : Operates r out w w') : (converging registry r).Allows w w' := by
  refine hout.acts_allowed ?_ w w' hoperates
  rintro callbacks out hcallbacks hrule w w' ⟨operation, hrun⟩ hw
  exact keeps_operation hcallbacks hrule operation w hw () w' hrun hw

/-- After any operations on a service, one after the other and each with operations
nested in its calls of the registry, the record of the handle that the service holds
shows its visible properties. -/
theorem record_shows_visible (hout : Layered (Operates r) (Interrupting registry) out)
    (hnumbered : (registry w.surroundings).Numbered)
    (hfree : (w.service r).registration = none)
    (hturn : Turn (Idle registry) (Operates r out) w w') (handle : Registration)
    (hheld : (w'.service r).registration = some handle) :
    ((registry w'.surroundings).record? handle).map ServiceRecord.properties =
      some (w'.service r).visible := by
  have hallows : (converging registry r).Allows w w' :=
    .of_turn (fun _ _ => allows_idle) (fun _ _ => allows_operates hout) hturn
  have hstart : (converging registry r).holds w := .of_unregistered hnumbered hfree
  obtain ⟨-, hleads⟩ := hallows hstart
  have hinStep : (offer registry r w').InStep :=
    Offer.InStep.of_leads (inStep_of_unregistered hfree) hleads
  obtain ⟨record, hrecord, hshown⟩ := hinStep handle hheld
  rw [show (registry w'.surroundings).record? handle = some record from hrecord, Option.map_some,
    hshown]
  rfl

/-! ## A registry that calls back -/

/-- Collaborators with a registry in memory that runs something before and behind every
registration. -/
def meddling (before behind : Run Registry Unit) : Collaborators Registry where
  log _ registry := registry
  announce _ registry := registry
  register specifications properties factory := do
    before
    let answer ←
      askRegistry id (fun after _ => after) (·.register specifications properties factory)
    behind
    return answer
  unregister handle := askRegistry id (fun after _ => after) (·.askUnregister handle)
  update handle properties :=
    askRegistry id (fun after _ => after) (·.askUpdate handle properties)
  publish _ _ _ := return .ok ⟨0⟩
  withdraw _ := return .ok ()
  call _ _ := return .returned
  configure _ _ _ _ := return
  notify _ _ := return
  read _ _ value := return value
  ready _ := return true
  rounds := 10

theorem interrupted_askRegistry {callbacks : World Registry → World Registry → Prop}
    (ask : Registry → Except Failure (α × Registry)) :
    Interrupted id callbacks ask (askRegistry id (fun after _ => after) ask) := by
  intro w
  refine (answers_askRegistry (fun _ _ => rfl) ask w).mono ?_
  intro answer w' hanswer
  exact ⟨w, w', .refl, hanswer, .refl⟩

theorem interrupting_meddling {callbacks : World Registry → World Registry → Prop}
    {before behind : Run Registry Unit}
    (hbefore : ∀ w, before.Ensures w fun _ => Turn (Idle id) callbacks w)
    (hbehind : ∀ w, behind.Ensures w fun _ => Turn (Idle id) callbacks w) :
    Interrupting id callbacks (meddling before behind) where
  register specifications properties factory w := by
    simp only [meddling, Run.ensures_bind, Run.ensures_pure]
    refine (hbefore w).mono ?_
    intro _ u hu
    refine (answers_askRegistry (fun _ _ => rfl) _ u).mono ?_
    intro answer v hanswer
    refine (hbehind v).mono ?_
    intro _ w' hw'
    exact ⟨u, v, hu, hanswer, hw'⟩
  unregister _ := interrupted_askRegistry _
  update _ _ := interrupted_askRegistry _

/-- The registry that does nothing but what it is asked for. -/
def unmeddling : Collaborators Registry := meddling (pure ()) (pure ())

theorem layered_unmeddling (r : Ref .service) :
    Layered (Operates r) (Interrupting id) unmeddling := by
  refine .bottom (interrupting_meddling ?_ ?_) <;> intro w <;>
    exact (Run.ensures_pure _).mpr .refl

/-- Operations of a layer around every registration make the next layer. -/
theorem layered_meddling {r : Ref .service} {below : Collaborators Registry}
    (hbelow : Layered (Operates r) (Interrupting id) below) (before behind : Operation) :
    Layered (Operates r) (Interrupting id)
      (meddling (before.run below r) (behind.run below r)) := by
  refine .above hbelow (interrupting_meddling ?_ ?_)
  · intro w _ w' hrun
    exact .single (.inr ⟨before, hrun⟩)
  · intro w _ w' hrun
    exact .single (.inr ⟨behind, hrun⟩)

/-- A service without properties on a platform of its own, and an empty registry. -/
def lone : World Registry where
  platform :=
    { Platform.ofSettings .standard with
      services := (Store.empty.add ⟨⟨["Clock"], .singleton, []⟩, [], .empty, none, 0⟩).2 }
  surroundings := .empty

/-- While the service is registered it is registered a first time, and within that
registration an entry is propagated onto it and removed again; behind it another entry is
propagated. The second handle stays. -/
theorem record_shows_visible_meddling :
    let inner := meddling (Operation.run unmeddling ⟨0⟩ (.extend (.ofList [("zone", .null)])))
      (Operation.run unmeddling ⟨0⟩ (.reduce (.ofList [("zone", .null)])))
    let out := meddling (Operation.run inner ⟨0⟩ .register)
      (Operation.run inner ⟨0⟩ (.extend (.ofList [("rate", .null)])))
    ∃ w', (Operation.run out ⟨0⟩ .register).run lone = some ((), w') ∧
      (w'.service ⟨0⟩).registration = some ⟨2⟩ ∧
      (w'.surroundings.record? ⟨2⟩).map ServiceRecord.properties =
        some (w'.service ⟨0⟩).visible := by
  intro inner out
  have hend : ((Operation.run out ⟨0⟩ .register).run lone).map
      (fun ending => (ending.2.service ⟨0⟩).registration) = some (some ⟨2⟩) := by
    decide +kernel
  obtain ⟨⟨⟨⟩, w'⟩, hrun, hheld⟩ := Option.map_eq_some_iff.mp hend
  have hout : Layered (Operates ⟨0⟩) (Interrupting id) out :=
    layered_meddling (layered_meddling (layered_unmeddling ⟨0⟩) _ _) _ _
  exact ⟨w', hrun, hheld,
    record_shows_visible (w := lone) hout Registry.numbered_empty rfl
      (.single (.inr ⟨.register, hrun⟩)) _ hheld⟩

end Componentry.Service

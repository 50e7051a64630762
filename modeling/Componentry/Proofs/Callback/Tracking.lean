import Componentry.Proofs.Callback.Firing
import Componentry.Proofs.Ensemble.Assembly
import Componentry.Proofs.Service.Frame

/-!
# The tracked state follows the state

A caller that is registered has seen the state that its component is in whenever no
operation is running, also when methods start, stop or flip the component in the middle of
a change of state, and however they end.

The two differ only while nobody is called back: between the change of the state and the
turn of the caller, and while a stop has reached the caller but not yet the component. A
change that is superseded before the turn of the caller is superseded by one that the
caller has seen.
-/

namespace Componentry

variable {σ τ α : Type}

/-- Collaborators whose registry and host call nobody back, and that take turns only while a
method is called. -/
structure Reserved (view : σ → τ) (callbacks : World σ → World σ → Prop)
    (out : Collaborators σ) : Prop extends Discreet view out where
  publish : ∀ identity properties target w,
    (out.publish identity properties target).Ensures w fun _ => Idle view w
  withdraw : ∀ handle w, (out.withdraw handle).Ensures w fun _ => Idle view w
  call : ∀ number component w,
    (out.call number component).Ensures w fun _ => Turn (Idle view) callbacks w

/-- The ensemble stands, and its caller is registered. -/
structure Overseen (e : Ensemble) (w : World σ) : Prop where
  stands : e.Stands w
  registered : .caller e.caller ∈ (w.component e.component).handlers

/-- The caller has seen the state that the component is in. -/
def Abreast (e : Ensemble) (w : World σ) : Prop :=
  (w.caller e.caller).tracked = (w.component e.component).state

/-- The regime of steps that neither change the state nor concern the caller. -/
def unheard (e : Ensemble) : Regime σ where
  holds := Overseen e
  leads w w' := (w'.component e.component).state = (w.component e.component).state ∧
    w'.caller e.caller = w.caller e.caller
  refl _ := ⟨rfl, rfl⟩
  trans huv hvw := ⟨hvw.1.trans huv.1, hvw.2.trans huv.2⟩

/-- The caller has seen the state, or neither that nor what it has seen has changed. -/
def KeepsUp (e : Ensemble) (w w' : World σ) : Prop :=
  Abreast e w' ∨ (w'.component e.component).state = (w.component e.component).state ∧
    (w'.caller e.caller).tracked = (w.caller e.caller).tracked

variable {view : σ → τ} {e : Ensemble} {w w' : World σ}

theorem Abreast.of_keepsUp (habreast : Abreast e w) (hkeepsUp : KeepsUp e w w') : Abreast e w' := by
  rcases hkeepsUp with hseen | ⟨hstate, htracked⟩
  · exact hseen
  · rw [Abreast, hstate, htracked]
    exact habreast

/-- The regime of operations on an ensemble. -/
def tracking (e : Ensemble) : Regime σ where
  holds := Overseen e
  leads := KeepsUp e
  refl _ := .inr ⟨rfl, rfl⟩
  trans := by
    intro u v w huv hvw
    rcases hvw with hseen | ⟨hstate, htracked⟩
    · exact .inl hseen
    · rcases huv with hseen | ⟨hstate', htracked'⟩
      · exact .inl (hseen.of_keepsUp (.inr ⟨hstate, htracked⟩))
      · exact .inr ⟨hstate.trans hstate', htracked.trans htracked'⟩

theorem tracking_of_unheard (h : (unheard e).Allows w w') : (tracking e).Allows w w' := by
  intro hw
  obtain ⟨hw', hstate, hcaller⟩ := h hw
  exact ⟨hw', .inr ⟨hstate, by rw [hcaller]⟩⟩

theorem tracking_keeps_of_unheard {m : Run σ α} (hm : (unheard e).Keeps m) :
    (tracking e).Keeps m :=
  hm.weaken (fun _ hw => hw) fun _ _ => tracking_of_unheard

theorem Overseen.of_quiet (hw : Overseen e w) (h : Quiet w w') : Overseen e w' where
  stands := hw.stands.of_quiet h
  registered := by
    rw [Component.handlers, h.attachments]
    exact hw.registered

theorem Overseen.changeState (hw : Overseen e w) (state : Validity) :
    Overseen e (w.changeComponent e.component fun c => { c with state := state }) where
  stands := hw.stands.changeComponent (fun _ => rfl) fun _ => rfl
  registered := by simpa [Component.handlers] using hw.registered

theorem unheard_of_slight (h : Slight w w') : (unheard e).Allows w w' := by
  intro hw
  exact ⟨hw.of_quiet h.quiet, h.state _, by rw [h.caller]⟩

theorem unheard_of_aside (h : Aside view w w') : (unheard e).Allows w w' := by
  intro hw
  refine ⟨⟨hw.stands.of_aside h, ?_⟩, by rw [h.component], by rw [h.caller]⟩
  rw [h.component]
  exact hw.registered

theorem unheard_changeConfigurator (f : Configurator → Configurator)
    (hcomponent : ∀ c, (f c).component = c.component)
    (hproperties : ∀ c, (f c).properties = c.properties) :
    (unheard e).Keeps (Run.changeConfigurator (σ := σ) e.configurator f) := by
  intro w _
  rw [Run.ensures_changeConfigurator]
  intro hw
  exact ⟨⟨hw.stands.changeConfigurator hcomponent hproperties, hw.registered⟩, rfl, rfl⟩

/-- The caller heeds changes of the state. -/
theorem tracking_heeds : (tracking (σ := σ) e).Heeds e (.caller e.caller) (Abreast e) where
  kept := Abreast.of_keepsUp
  changed hkeepsUp := hkeepsUp.imp_right And.left
  absent hw hnot := absurd hw.registered hnot
  admitted state hw := hw.changeState state
  leads _ _ habreast := .inl habreast

section Layer

variable {callbacks : World σ → World σ → Prop} {out : Collaborators σ}
  (hout : Reserved view callbacks out)
include hout

theorem publishes_unheard : (unheard e).Publishes e out where
  stands hw := hw.stands
  slight := unheard_of_slight
  note := Regime.keeps_note_aside hout.toDiscreet unheard_of_aside
  publication _ := unheard_changeConfigurator _ (fun _ => rfl) fun _ => rfl
  published _ _ := Regime.keeps_tell_aside hout.toDiscreet unheard_of_aside _
  withdrawn _ _ := Regime.keeps_tell_aside hout.toDiscreet unheard_of_aside _
  publish identity properties target w _ :=
    (hout.publish identity properties target w).mono fun _ _ hidle => unheard_of_aside hidle.aside
  withdraw handle w _ :=
    (hout.withdraw handle w).mono fun _ _ hidle => unheard_of_aside hidle.aside

theorem publishes_tracking : (tracking e).Publishes e out :=
  (publishes_unheard hout).weaken (fun _ hw => hw) fun _ _ => tracking_of_unheard

/-- The handlers ahead of the caller and behind it do not concern it when they are told. -/
theorem unheard_stateChanged {handler : Handler} (hhandler : handler ∈ e.handlers)
    (hother : handler ≠ .caller e.caller) (state : Validity) :
    (unheard e).Keeps (handler.stateChanged out state) := by
  have H : (unheard e).Publishes e out := publishes_unheard hout
  rcases Ensemble.mem_handlers.mp hhandler with rfl | rfl | rfl
  · apply H.tolerates.provider_stateChanged
    · intro s _ className
      exact Regime.keeps_registerService_aside hout.toDiscreet unheard_of_aside className s
    · intro s _ className
      exact Regime.keeps_unregisterService_aside hout.toDiscreet unheard_of_aside className s
  · exact H.configurator_stateChanged state
  · exact absurd rfl hother

theorem unheard_stop {handler : Handler} (hhandler : handler ∈ e.handlers)
    (hother : handler ≠ .caller e.caller) : (unheard e).Keeps (handler.stop out) := by
  have H : (unheard e).Publishes e out := publishes_unheard hout
  rcases Ensemble.mem_handlers.mp hhandler with rfl | rfl | rfl
  · apply H.tolerates.provider_stop
    intro s _ className
    exact Regime.keeps_unregisterService_aside hout.toDiscreet unheard_of_aside className s
  · exact H.configurator_withdraw
  · exact absurd rfl hother

/-- A stop makes the caller forget what it has seen, and ends invalid. -/
theorem tracking_stop : (tracking e).Keeps (Component.stop out e.component) := by
  have H : (tracking e).Publishes e out := publishes_tracking hout
  apply H.tolerates.holding
  intro w hw
  simp only [Run.ensures_bind, Run.ensures_component, Run.ensures_changeComponent]
  have hstopped : ((w.component e.component).handlers.forM fun handler => handler.stop out).Ensures
      w fun _ u => Overseen e u ∧ (.caller e.caller ∈ (w.component e.component).handlers →
        (u.caller e.caller).tracked = .invalid) := by
    apply Run.ensures_forM_settled
    · intro _ u hu
      simp only [Handler.stop, Caller.stop, Run.ensures_changeCaller]
      exact ⟨hu.of_quiet (.changeCaller u e.caller fun _ => rfl), by simp⟩
    · intro handler hmem hother u hu
      refine (unheard_stop hout (hw.stands.handlers handler hmem) hother u hu).mono ?_
      intro _ u' hallows
      obtain ⟨hu', -, hcaller⟩ := hallows hu
      rw [hcaller]
      exact ⟨hu', id⟩
    · exact hw
  refine hstopped.mono ?_
  intro _ u hbehind
  obtain ⟨hu, htracked⟩ := hbehind
  have hinvalid := hu.changeState .invalid
  have habreast : Abreast e
      (u.changeComponent e.component fun c => { c with state := .invalid }) := by
    simp [Abreast, htracked hw.registered]
  refine (H.note _ _ hinvalid).mono ?_
  intro _ w' hallows _
  obtain ⟨hw', hkeepsUp⟩ := hallows hinvalid
  exact ⟨hw', .inl (habreast.of_keepsUp hkeepsUp)⟩

theorem tracking_write (s : Ref .service) (field : String) (value : Value) :
    (tracking e).Keeps (Service.write out s field value) :=
  tracking_keeps_of_unheard
    (Regime.keeps_write_aside hout.toDiscreet unheard_of_aside s field value)

theorem tracking_updated (configuration : Option Properties) :
    (tracking e).Keeps (Configurator.updated out e.configurator configuration) := by
  have H : (unheard e).Publishes e out := publishes_unheard hout
  apply tracking_keeps_of_unheard
  apply H.tolerates.configurator_updated
  · exact fun s _ => Regime.keeps_write_aside hout.toDiscreet unheard_of_aside s
  · apply H.tolerates.configurator_propagate
    · exact fun s _ => Regime.keeps_extend_aside hout.toDiscreet unheard_of_aside s
    · exact fun s _ => Regime.keeps_reduce_aside hout.toDiscreet unheard_of_aside s
    · exact fun entries => unheard_changeConfigurator _ (fun _ => rfl) fun _ => rfl

variable (hcallbacks : ∀ w w', callbacks w w' → (tracking e).Allows w w')
include hcallbacks

theorem tracking_call (number : Nat) (component : Ref .component) :
    (tracking e).Keeps (out.call number component) := by
  intro w _
  refine (hout.call number component w).mono ?_
  intro _ w' hturn
  apply Regime.Allows.of_turn _ hcallbacks hturn
  intro u v hidle
  exact tracking_of_unheard (unheard_of_aside hidle.aside)

/-- A caller that is told of the state that its component has is abreast of it from then on,
whatever the methods do that it calls. -/
theorem ensures_caller_told {state : Validity} (hw : Overseen e w)
    (hstate : (w.component e.component).state = state) :
    (Caller.stateChanged out e.caller state).Ensures w fun _ w' =>
      (tracking e).Allows w w' ∧ Abreast e w' := by
  have H : (tracking e).Publishes e out := publishes_tracking hout
  simp only [Caller.stateChanged, Run.ensures_bind, Run.ensures_caller, Run.ensures_changeCaller]
  let u := w.changeCaller e.caller fun c => { c with tracked := state }
  have hu : Overseen e u := hw.of_quiet (.changeCaller w e.caller fun _ => rfl)
  have habreast : Abreast e u := by simp [u, Abreast, hstate]
  have hcalls : (tracking e).Keeps (Run.whileAlive (w.caller e.caller).component fun component => do
      let className := (← Run.component component).className
      ((w.caller e.caller).callbacks.filter fun callback =>
        callback.declared.isFor ⟨(w.caller e.caller).tracked, state⟩).forM
          (Caller.run out className component)) := by
    apply H.tolerates.whileAlive
    intro component _
    apply (Regime.keeps_component component).bind
    intro c
    apply Regime.Keeps.forM
    intro callback _
    exact H.tolerates.callback_run (tracking_call hout hcallbacks) c.className component callback
  refine (hcalls u hu).mono ?_
  intro _ w' hallows
  obtain ⟨hw', hkeepsUp⟩ := hallows hu
  have hseen := habreast.of_keepsUp hkeepsUp
  exact ⟨fun _ => ⟨hw', .inl hseen⟩, hseen⟩

/-- Handlers that are told of the state that their component has. -/
theorem tracking_told (state : Validity) (w : World σ) (hw : (tracking e).holds w)
    (hstate : (w.component e.component).state = state) (handler : Handler)
    (hhandler : handler ∈ e.handlers) :
    (handler.stateChanged out state).Ensures w fun _ w' =>
      (tracking e).Allows w w' ∧ (Abreast e w' ∨ handler ≠ .caller e.caller) := by
  by_cases hcaller : handler = .caller e.caller
  · subst hcaller
    refine (ensures_caller_told hout hcallbacks hw hstate).mono ?_
    exact fun _ _ h => ⟨h.1, .inl h.2⟩
  · have hkeeps := tracking_keeps_of_unheard (unheard_stateChanged hout hhandler hcaller state)
    exact (hkeeps w hw).mono fun _ _ hallows => ⟨hallows, .inr hcaller⟩

/-- No operation leaves the caller behind the state. -/
theorem tracking_operation (operation : Ensemble.Operation) :
    (tracking e).Keeps (operation.run out e) := by
  have H : (tracking e).Publishes e out := publishes_tracking hout
  have htold := tracking_told hout hcallbacks
  have htell : ∀ className transition,
      (tracking e).Keeps (out.tell (.stateChanged className transition)) := by
    intro className transition
    exact tracking_keeps_of_unheard
      (Regime.keeps_tell_aside hout.toDiscreet unheard_of_aside _)
  cases operation with
  | start =>
      apply H.component_start tracking_heeds htold htell
      apply H.tolerates.provider_start
      intro s _ className
      exact tracking_keeps_of_unheard
        (Regime.keeps_registerService_aside hout.toDiscreet unheard_of_aside className s)
  | stop => exact tracking_stop hout
  | checkValidity => exact H.component_checkValidity tracking_heeds htold htell
  | setState state => exact H.component_setState tracking_heeds htold htell state
  | setField field value =>
      exact H.tolerates.component_setField (fun s _ => tracking_write hout s) field value
  | update configuration => exact tracking_updated hout configuration

end Layer

theorem tracking_operates {out : Collaborators σ} (hout : Layered e.Operates (Reserved view) out)
    (hoperates : e.Operates out w w') : (tracking e).Allows w w' := by
  apply hout.operates_allowed _ hoperates
  intro callbacks out hcallbacks hrule
  exact tracking_operation hrule hcallbacks

/-- The caller of a component with a callback has seen the state that the component is in,
after any operations, whose methods may run operations themselves, to any depth, and may
fail in any way. -/
theorem tracked_eq_state {out : Collaborators σ} {w₀ w₁ w₂ : World σ}
    (hout : Layered e.Operates (Reserved view) out) (hassembled : e.Assembled out w₀ w₁)
    (hdeclared : ∃ element ∈ (w₁.component e.component).descriptor.root.childrenNamed "callback",
      (element.attribute? "method").isSome = true)
    (hturn : Turn (Idle view) (e.Operates out) w₁ w₂) :
    (w₂.caller e.caller).tracked = (w₂.component e.component).state := by
  obtain ⟨callbacks, hrule⟩ := hout.exists_rule
  obtain ⟨hnew, -⟩ := hassembled.new hrule.log
  have hstart : Overseen e w₁ :=
    ⟨hnew.stands, hnew.called (Caller.readCallbacks_ne_nil _ _ hdeclared)⟩
  have habreast : Abreast e w₁ := hnew.tracked.trans hnew.invalid.symm
  have hallows : (tracking e).Allows w₁ w₂ := by
    apply Regime.Allows.of_turn _ (fun _ _ => tracking_operates hout) hturn
    intro u v hidle
    exact tracking_of_unheard (unheard_of_aside hidle.aside)
  obtain ⟨-, hkeepsUp⟩ := hallows hstart
  exact habreast.of_keepsUp hkeepsUp

/-! ## A clock that flips while it is flipped -/

namespace Registry

/-- The collaborators of a registry, with what the bodies of methods do. -/
def collaborators (method : Run Registry Ending) : Collaborators Registry :=
  .inMemory id (fun after _ => after) (fun _ registry => registry) fun _ => method

theorem reserved_collaborators {callbacks : World Registry → World Registry → Prop}
    {method : Run Registry Ending}
    (hmethod : ∀ w, method.Ensures w fun _ => Turn (Idle fun _ => ()) callbacks w) :
    Reserved (fun _ => ()) callbacks (collaborators method) where
  toDiscreet := discreet_inMemory (fun _ _ => rfl) fun _ _ => rfl
  publish _ _ _ _ := (Run.ensures_pure _).mpr ⟨rfl, rfl⟩
  withdraw _ _ := (Run.ensures_pure _).mpr ⟨rfl, rfl⟩
  call _ _ w := hmethod w

/-- The method makes the clock invalid and is broken off. -/
def flipping : Collaborators Registry :=
  collaborators (Ensemble.clock.performing (collaborators (return .returned))
    [.setState .invalid] (.panicked none))

/-- The method stops the clock, starts it again, whereby it is called once more, checks its
validity, and fails. -/
def restarting : Collaborators Registry :=
  collaborators (Ensemble.clock.performing flipping [.stop, .start, .checkValidity, .stop, .start]
    (.failed "stuck"))

theorem layered_restarting :
    Layered Ensemble.clock.Operates (Reserved fun _ => ()) restarting := by
  have hquiet : Layered Ensemble.clock.Operates (Reserved fun _ => ())
      (collaborators (return .returned)) :=
    .bottom (reserved_collaborators fun w => (Run.ensures_pure _).mpr .refl)
  have hflipping : Layered Ensemble.clock.Operates (Reserved fun _ => ()) flipping :=
    hquiet.above (reserved_collaborators (Ensemble.clock.turn_performing _ _ _))
  exact hflipping.above (reserved_collaborators (Ensemble.clock.turn_performing _ _ _))

end Registry

/-- The clock is made valid. Whatever its method does meanwhile, and although the change is
superseded, its caller has seen in the end that the clock is invalid. -/
theorem tracked_eq_state_clock :
    ∃ w₁ w₂ : World Registry,
      (Component.configure Registry.restarting ⟨0⟩
        [.caller ⟨0⟩, .provider ⟨0⟩, .configurator ⟨0⟩] .empty).run (.clock .empty) =
          some ((), w₁) ∧
      (Component.setState Registry.restarting ⟨0⟩ .valid).run w₁ = some ((), w₂) ∧
      (w₂.component ⟨0⟩).state = .invalid ∧ (w₂.caller ⟨0⟩).tracked = .invalid := by
  have hends : ((Component.configure Registry.restarting ⟨0⟩
      [.caller ⟨0⟩, .provider ⟨0⟩, .configurator ⟨0⟩] .empty).run (.clock .empty)).bind
        (fun first => ((Component.setState Registry.restarting ⟨0⟩ .valid).run first.2).map
          fun second =>
            decide ((first.2.provider ⟨0⟩).services = [⟨0⟩] ∧
              (first.2.configurator ⟨0⟩).properties = [⟨0⟩] ∧
              (∃ element ∈ (first.2.component ⟨0⟩).descriptor.root.childrenNamed "callback",
                (element.attribute? "method").isSome = true) ∧
              (second.2.component ⟨0⟩).state = .invalid)) = some true := by
    decide +kernel
  obtain ⟨⟨⟨⟩, w₁⟩, hconfigured, hends⟩ := Option.bind_eq_some_iff.mp hends
  obtain ⟨⟨⟨⟩, w₂⟩, hset, hfacts⟩ := Option.map_eq_some_iff.mp hends
  obtain ⟨hservices, hproperties, hdeclared, hinvalid⟩ := of_decide_eq_true hfacts
  have htracked := tracked_eq_state Registry.layered_restarting
    (Ensemble.assembled_clock (by decide) hconfigured hservices hproperties) hdeclared
    (.single (.inr ⟨.setState .valid, hset⟩))
  exact ⟨w₁, w₂, hconfigured, hset, hinvalid, htracked.trans hinvalid⟩

end Componentry

import Componentry.Proofs.Ensemble.Assembly
import Componentry.Proofs.Service.Frame

/-!
# When callbacks are called

Where methods start no lifecycle operation themselves, the callbacks that a component calls
follow from the changes of its state alone: each change calls the callbacks that are
declared for it, in the order of their declaration, and however one of them ends the next
one is called. A stop ends in the invalid state without a change that would be told, and a
state that is set again is none.

The caller matches callbacks against the state that it has seen, not against the one of
the component. So the two have to agree between operations.
-/

namespace Componentry

variable {σ α : Type}

/-- The body that a callback runs: that of its method, if there is one that can be called.
A static declaration does not call the method of an instance. -/
def Callback.body? (callback : Callback) : Option Nat :=
  (callback.target.filter fun method =>
    !method.isPrivate && (!callback.declared.isStatic || method.isStatic)).map Method.body

theorem Method.obstacle?_eq_none_iff (method : Method) (declaredStatic : Bool) :
    method.obstacle? declaredStatic = none ↔
      (!method.isPrivate && (!declaredStatic || method.isStatic)) = true := by
  unfold obstacle?
  cases method.isPrivate <;> cases declaredStatic <;> cases method.isStatic <;> simp

/-- A callback runs a body exactly if there is nothing in the way of its method. -/
theorem Callback.body?_of_target {callback : Callback} {method : Method}
    (htarget : callback.target = some method) :
    callback.body? =
      if method.obstacle? callback.declared.isStatic = none then some method.body else none := by
  simp only [body?, htarget, Method.obstacle?_eq_none_iff]
  split <;> simp_all

/-- Calling a callback runs its body, if it runs one, and nothing else. -/
theorem Callback.ensures_invoke {out : Collaborators σ} {component : Ref .component}
    {callback : Callback} {w : World σ} {post : World σ → Prop}
    (hmute : callback.body? = none → post w)
    (hcall : ∀ number, callback.body? = some number →
      (out.call number component).Ensures w fun _ => post) :
    (callback.invoke out component).Ensures w fun _ => post := by
  unfold Callback.invoke
  split
  next hnone =>
    rw [Run.ensures_pure]
    exact hmute (by simp [body?, hnone])
  next method hsome =>
    unfold Method.invoke
    split
    next failure hobstacle =>
      rw [Run.ensures_pure]
      exact hmute (by simp [Callback.body?_of_target hsome, hobstacle])
    next hobstacle =>
      rw [Run.ensures_bind]
      refine (hcall method.body ?_).mono fun _ _ hpost => (Run.ensures_pure _).mpr hpost
      rw [Callback.body?_of_target hsome, if_pos hobstacle]

/-- The bodies that callbacks run on a change, in their order. -/
def Callback.bodies (callbacks : List Callback) (transition : Transition) : List Nat :=
  (callbacks.filter fun callback => callback.declared.isFor transition).filterMap Callback.body?

/-- The bodies that a component is declared to run on a change: those of the methods that
its callback elements name for the change, as far as they can be called. -/
def Component.bodiesFor (component : Component) (transition : Transition) : List Nat :=
  (component.descriptor.root.childrenNamed "callback").filterMap fun element =>
    match CallbackDescriptor.ofElement element with
    | .error _ => none
    | .ok declared =>
        if declared.isFor transition then (Callback.bind declared component.methods).body?
        else none

/-- What is declared is what is read. -/
theorem Component.bodies_declaredCallbacks (component : Component) (transition : Transition) :
    Callback.bodies component.declaredCallbacks transition = component.bodiesFor transition := by
  rw [declaredCallbacks, bodiesFor]
  induction component.descriptor.root.childrenNamed "callback" with
  | nil => rfl
  | cons element rest ih =>
      rw [List.filterMap_cons, ← ih, Caller.readCallbacks]
      cases CallbackDescriptor.ofElement element with
      | error cause => rfl
      | ok declared =>
          cases hfor : declared.isFor transition with
          | false => simp [Callback.bodies, Callback.bind, hfor]
          | true =>
              simp only [Callback.bodies, Callback.bind, hfor, List.filter_cons, if_true,
                List.filterMap_cons]

namespace Ensemble

/-- The state in which an operation on an ensemble ends. -/
def Operation.after : Operation → Validity → Validity
  | start, _ => .valid
  | stop, _ => .invalid
  | checkValidity, _ => .valid
  | setState state, _ => state
  | setField _ _, state => state
  | update _, state => state

/-- The change of state that an operation tells the handlers of. -/
def Operation.change? : Operation → Validity → Option Transition
  | start, state => if state = .valid then none else some ⟨state, .valid⟩
  | checkValidity, state => if state = .valid then none else some ⟨state, .valid⟩
  | setState target, state => if state = target then none else some ⟨state, target⟩
  | _, _ => none

/-- The changes of state that operations tell the handlers of, one after the other. -/
def changes (state : Validity) : List Operation → List Transition
  | [] => []
  | operation :: rest => (operation.change? state).toList ++ changes (operation.after state) rest

/-- An operation that changes no state: a field is written or a configuration updated. -/
inductive Writes (e : Ensemble) (out : Collaborators σ) (w w' : World σ) : Prop
  | setField (field : String) (value : Value)
      (hrun : ((Operation.setField field value).run out e).run w = some ((), w'))
  | update (configuration : Option Properties)
      (hrun : ((Operation.update configuration).run out e).run w = some ((), w'))

end Ensemble

/-- Collaborators that keep account of the bodies that are called. Nothing else that they do
matters, but for the operations that run while a body is called. -/
structure Counts (called : σ → List Nat) (callbacks : World σ → World σ → Prop)
    (out : Collaborators σ) : Prop extends Discreet called out where
  publish : ∀ identity properties target w,
    (out.publish identity properties target).Ensures w fun _ => Idle called w
  withdraw : ∀ handle w, (out.withdraw handle).Ensures w fun _ => Idle called w
  call : ∀ number component w, (out.call number component).Ensures w fun _ w' =>
    ∃ u, u.platform = w.platform ∧
      called u.surroundings = called w.surroundings ++ [number] ∧
      Turn (Idle called) callbacks u w'

/-- Bodies are called, and neither the state nor the caller changes. -/
structure Calls (called : σ → List Nat) (e : Ensemble) (numbers : List Nat) (w w' : World σ) :
    Prop where
  steady : (w'.component e.component).state = (w.component e.component).state
  handlers : (w'.component e.component).handlers = (w.component e.component).handlers
  caller : w'.caller e.caller = w.caller e.caller
  called : called w'.surroundings = called w.surroundings ++ numbers

variable {called : σ → List Nat} {e : Ensemble} {w w' : World σ}

theorem Calls.refl (w : World σ) : Calls called e [] w w := ⟨rfl, rfl, rfl, by simp⟩

theorem Calls.trans {u v : World σ} {numbers numbers' : List Nat}
    (huv : Calls called e numbers u v) (hvw : Calls called e numbers' v w) :
    Calls called e (numbers ++ numbers') u w where
  steady := hvw.steady.trans huv.steady
  handlers := hvw.handlers.trans huv.handlers
  caller := hvw.caller.trans huv.caller
  called := by rw [hvw.called, huv.called, List.append_assoc]

/-- The regime of steps in which nothing is called. -/
def silent (called : σ → List Nat) (e : Ensemble) : Regime σ where
  holds := e.Stands
  leads := Calls called e []
  refl := Calls.refl
  trans := Calls.trans

theorem silent_of_slight (h : Slight w w') : (silent called e).Allows w w' := by
  intro hw
  refine ⟨hw.of_quiet h.quiet, h.state _, ?_, by rw [h.caller], by simp [h.surroundings]⟩
  exact congrArg (List.map Attachment.handler) (h.attachments e.component)

theorem silent_of_aside (h : Aside called w w') : (silent called e).Allows w w' := by
  intro hw
  refine ⟨hw.of_aside h, ?_, ?_, by rw [h.caller], by simp [h.surroundings]⟩ <;> rw [h.component]

theorem silent_of_idle (h : Idle called w w') : (silent called e).Allows w w' :=
  silent_of_aside h.aside

theorem silent_changeConfigurator (f : Configurator → Configurator)
    (hcomponent : ∀ c, (f c).component = c.component)
    (hproperties : ∀ c, (f c).properties = c.properties) :
    (silent called e).Keeps (Run.changeConfigurator e.configurator f) := by
  intro w _
  rw [Run.ensures_changeConfigurator]
  exact fun hw => ⟨hw.changeConfigurator hcomponent hproperties, rfl, rfl, rfl, by simp⟩

section Layer

variable {callbacks : World σ → World σ → Prop} {out : Collaborators σ}
  (hout : Counts called callbacks out)
include hout

theorem publishes_silent : (silent called e).Publishes e out where
  stands := id
  slight := silent_of_slight
  note := Regime.keeps_note_aside hout.toDiscreet silent_of_aside
  publication _ := silent_changeConfigurator _ (fun _ => rfl) fun _ => rfl
  published _ _ := Regime.keeps_tell_aside hout.toDiscreet silent_of_aside _
  withdrawn _ _ := Regime.keeps_tell_aside hout.toDiscreet silent_of_aside _
  publish _ _ _ w _ := (hout.publish _ _ _ w).mono fun _ _ => silent_of_idle
  withdraw _ w _ := (hout.withdraw _ w).mono fun _ _ => silent_of_idle

theorem silent_setField (field : String) (value : Value) :
    (silent called e).Keeps (Component.setField out e.component field value) := by
  have H : (silent called e).Publishes e out := publishes_silent hout
  apply H.tolerates.component_setField
  intro s _ field value
  exact Regime.keeps_write_aside hout.toDiscreet silent_of_aside s field value

theorem silent_updated (configuration : Option Properties) :
    (silent called e).Keeps (Configurator.updated out e.configurator configuration) := by
  have H : (silent called e).Publishes e out := publishes_silent hout
  apply H.tolerates.configurator_updated
  · intro s _ field value
    exact Regime.keeps_write_aside hout.toDiscreet silent_of_aside s field value
  · apply H.tolerates.configurator_propagate
    · exact fun s _ => Regime.keeps_extend_aside hout.toDiscreet silent_of_aside s
    · exact fun s _ => Regime.keeps_reduce_aside hout.toDiscreet silent_of_aside s
    · exact fun entries => silent_changeConfigurator _ (fun _ => rfl) fun _ => rfl

theorem silent_writes (hwrites : e.Writes out w w') : (silent called e).Allows w w' := by
  intro hw
  cases hwrites with
  | setField field value hrun => exact silent_setField hout field value w hw () w' hrun hw
  | update configuration hrun => exact silent_updated hout configuration w hw () w' hrun hw

end Layer

theorem silent_layered {out : Collaborators σ} (hout : Layered e.Writes (Counts called) out)
    (hwrites : e.Writes out w w') : (silent called e).Allows w w' := by
  refine hout.acts_allowed ?_ w w' hwrites
  exact fun _ _ _ hrule _ _ => silent_writes hrule

/-! ## Callbacks -/

/-- The component is told of a change by its caller, which then has seen the new state. -/
structure Told (called : σ → List Nat) (e : Ensemble) (state : Validity) (w w' : World σ) :
    Prop where
  steady : (w'.component e.component).state = (w.component e.component).state
  handlers : (w'.component e.component).handlers = (w.component e.component).handlers
  caller : w'.caller e.caller = { w.caller e.caller with tracked := state }
  called : called w'.surroundings = called w.surroundings ++
    Callback.bodies (w.caller e.caller).callbacks ⟨(w.caller e.caller).tracked, state⟩

theorem Told.after {u v : World σ} {state : Validity} (huv : Calls called e [] u v)
    (hvw : Told called e state v w) : Told called e state u w where
  steady := hvw.steady.trans huv.steady
  handlers := hvw.handlers.trans huv.handlers
  caller := by rw [hvw.caller, huv.caller]
  called := by simp [hvw.called, huv.called, huv.caller]

theorem Told.before {u v : World σ} {state : Validity} (huv : Told called e state u v)
    (hvw : Calls called e [] v w) : Told called e state u w where
  steady := hvw.steady.trans huv.steady
  handlers := hvw.handlers.trans huv.handlers
  caller := by rw [hvw.caller, huv.caller]
  called := by simp [hvw.called, huv.called]

section Layer

variable {callbacks : World σ → World σ → Prop} {out : Collaborators σ}
  (hout : Counts called callbacks out)
  (hcallbacks : ∀ w w', callbacks w w' → (silent called e).Allows w w')
include hout hcallbacks

/-- The body of a method is called once, and what runs within calls no other one. -/
theorem ensures_call (number : Nat) (component : Ref .component) (hw : e.Stands w) :
    (out.call number component).Ensures w fun _ w' =>
      e.Stands w' ∧ Calls called e [number] w w' := by
  refine (hout.call number component w).mono ?_
  rintro _ w' ⟨u, hplatform, hcalled, hturn⟩
  obtain ⟨hcomponent, -, -, -, -, hcaller⟩ := World.objects_of_platform hplatform
  have hbegun : Calls called e [number] w u :=
    ⟨by rw [hcomponent], by rw [hcomponent], by rw [hcaller], hcalled⟩
  have hwithin : (silent called e).Allows u w' :=
    .of_turn (fun _ _ => silent_of_idle) hcallbacks hturn
  obtain ⟨hw', hends⟩ := hwithin (hw.of_platform hplatform)
  exact ⟨hw', hbegun.trans hends⟩

/-- However a callback ends, its body was called if it can be called. -/
theorem ensures_callback (className : String) (component : Ref .component) (callback : Callback)
    (hw : e.Stands w) :
    (Caller.run out className component callback).Ensures w fun _ w' =>
      e.Stands w' ∧ Calls called e callback.body?.toList w w' := by
  have H : (silent called e).Publishes e out := publishes_silent hout
  have hinvoke : ∀ {u}, e.Stands u → (callback.invoke out component).Ensures u fun _ u' =>
      e.Stands u' ∧ Calls called e callback.body?.toList u u' := by
    intro u hu
    refine Callback.ensures_invoke (fun hnone => ?_) fun number hbody => ?_
    · exact ⟨hu, hnone ▸ .refl u⟩
    · rw [hbody]
      exact ensures_call hout hcallbacks number component hu
  unfold Caller.run
  rw [Run.ensures_bind]
  refine (H.note _ w hw).mono ?_
  intro _ u hnoted
  obtain ⟨hu, hsilent⟩ := hnoted hw
  rw [Run.ensures_bind]
  refine (hinvoke hu).mono ?_
  rintro answer v ⟨hv, hcalls⟩
  split
  · rw [Run.ensures_pure]
    exact ⟨hv, hsilent.trans hcalls⟩
  · refine (H.note _ v hv).mono ?_
    intro _ w' hlogged
    obtain ⟨hw', hsilent'⟩ := hlogged hv
    exact ⟨hw', by simpa using (hsilent.trans hcalls).trans hsilent'⟩

/-- However the callbacks end that are called one after the other, each is called. -/
theorem ensures_callbacks (className : String) (component : Ref .component)
    (callbacks' : List Callback) (hw : e.Stands w) :
    (callbacks'.forM (Caller.run out className component)).Ensures w fun _ w' =>
      e.Stands w' ∧ Calls called e (callbacks'.filterMap Callback.body?) w w' := by
  induction callbacks' generalizing w with
  | nil => exact (Run.ensures_pure _).mpr ⟨hw, .refl w⟩
  | cons callback rest ih =>
      rw [Run.ensures_forM_cons]
      refine (ensures_callback hout hcallbacks className component callback hw).mono ?_
      rintro _ u ⟨hu, hfirst⟩
      refine (ih hu).mono ?_
      rintro _ w' ⟨hw', hrest⟩
      refine ⟨hw', ?_⟩
      have hall := hfirst.trans hrest
      cases hbody : callback.body? <;> simpa [hbody] using hall

/-- The caller of a component that changes its state has seen the new state, and calls what
is declared for the change from the one that it had seen. -/
theorem ensures_caller_stateChanged (state : Validity) (hw : e.Stands w) :
    (Caller.stateChanged out e.caller state).Ensures w fun _ w' =>
      e.Stands w' ∧ Told called e state w w' := by
  have H : (silent called e).Publishes e out := publishes_silent hout
  simp only [Caller.stateChanged, Run.ensures_bind, Run.ensures_caller, Run.ensures_changeCaller,
    hw.caller]
  let u := w.changeCaller e.caller fun c => { c with tracked := state }
  have hstands : e.Stands u := hw.of_quiet (.changeCaller w e.caller fun _ => rfl)
  have hhold : (silent called e).Allows u (u.hold e.component) := silent_of_slight (.hold u _)
  have hheld := hhold hstands
  rw [Run.ensures_whileAlive_owned hstands.owned]
  simp only [Run.ensures_bind, Run.ensures_component]
  refine (ensures_callbacks hout hcallbacks _ e.component _ hheld.1).mono ?_
  rintro _ v ⟨hv, hcalls⟩
  obtain ⟨hw', hreleased⟩ := silent_of_slight (.release v e.component) hv
  have hall := (hheld.2.trans hcalls).trans hreleased
  refine ⟨hw', hall.steady, hall.handlers, ?_, ?_⟩
  · rw [hall.caller]
    simp [u]
  · rw [hall.called]
    simp [u, Callback.bodies]

omit hcallbacks in
/-- The other handlers call nothing when they are told of a change. -/
theorem silent_stateChanged {handler : Handler} (hhandler : handler ∈ e.handlers)
    (hother : handler ≠ .caller e.caller) (state : Validity) :
    (silent called e).Keeps (handler.stateChanged out state) := by
  have H : (silent called e).Publishes e out := publishes_silent hout
  rcases Ensemble.mem_handlers.mp hhandler with rfl | rfl | rfl
  · apply H.tolerates.provider_stateChanged
    · exact fun s _ className => Regime.keeps_registerService_aside hout.toDiscreet silent_of_aside
        className s
    · exact fun s _ className => Regime.keeps_unregisterService_aside hout.toDiscreet
        silent_of_aside className s
  · exact H.configurator_stateChanged state
  · exact absurd rfl hother

/-- A dispatch of the state that a component has reaches all handlers, the caller among them
once if it is there. -/
theorem ensures_dispatch_told {state : Validity} {handlers : List Handler}
    (hhandlers : ∀ handler ∈ handlers, handler ∈ e.handlers) (hdistinct : handlers.Nodup)
    (hw : e.Stands w) (hstate : (w.component e.component).state = state) :
    (Component.dispatch out e.component state handlers).Ensures w fun _ w' => e.Stands w' ∧
      if .caller e.caller ∈ handlers then Told called e state w w' else Calls called e [] w w' := by
  induction handlers generalizing w with
  | nil => exact (Run.ensures_pure _).mpr ⟨hw, .refl w⟩
  | cons handler rest ih =>
      obtain ⟨hnot, hrest⟩ := List.nodup_cons.mp hdistinct
      have hbehind {u} := @ih u
        (fun other hother => hhandlers other (List.mem_cons_of_mem handler hother)) hrest
      simp only [Component.dispatch, Run.ensures_bind, Run.ensures_component, hstate, ne_eq,
        not_true_eq_false, if_false]
      by_cases hcaller : handler = .caller e.caller
      · subst hcaller
        refine (ensures_caller_stateChanged hout hcallbacks state hw).mono ?_
        rintro _ u ⟨hu, htold⟩
        refine (hbehind hu (htold.steady.trans hstate)).mono ?_
        rintro _ w' ⟨hw', hends⟩
        rw [if_neg hnot] at hends
        rw [if_pos List.mem_cons_self]
        exact ⟨hw', htold.before hends⟩
      · refine (silent_stateChanged hout (hhandlers handler List.mem_cons_self) hcaller state w
          hw).mono ?_
        intro _ u hallows
        obtain ⟨hu, hsilent⟩ := hallows hw
        refine (hbehind hu (hsilent.steady.trans hstate)).mono ?_
        rintro _ w' ⟨hw', hends⟩
        refine ⟨hw', ?_⟩
        simp only [List.mem_cons, Ne.symm hcaller, false_or]
        split at hends
        next hmem => simpa [hmem] using Told.after hsilent hends
        next hmem => simpa [hmem] using hsilent.trans hends

end Layer

/-! ## Operations -/

/-- The caller of a component has seen the state that it is in. -/
structure Tuned (e : Ensemble) (w : World σ) : Prop where
  stands : e.Stands w
  separate : (w.component e.component).handlers.Nodup
  registered : .caller e.caller ∈ (w.component e.component).handlers
  tracked : (w.caller e.caller).tracked = (w.component e.component).state

/-- An operation leads to a state over changes that are told. -/
structure Fires (called : σ → List Nat) (e : Ensemble) (state : Validity)
    (transitions : List Transition) (w w' : World σ) : Prop where
  stands : e.Stands w'
  handlers : (w'.component e.component).handlers = (w.component e.component).handlers
  callbacks : (w'.caller e.caller).callbacks = (w.caller e.caller).callbacks
  ends : (w'.component e.component).state = state
  tracked : (w'.caller e.caller).tracked = state
  called : called w'.surroundings =
    called w.surroundings ++ transitions.flatMap (Callback.bodies (w.caller e.caller).callbacks)

theorem Fires.tuned {state : Validity} {transitions : List Transition} (hw : Tuned e w)
    (h : Fires called e state transitions w w') : Tuned e w' where
  stands := h.stands
  separate := by
    rw [h.handlers]
    exact hw.separate
  registered := by
    rw [h.handlers]
    exact hw.registered
  tracked := h.tracked.trans h.ends.symm

theorem Fires.trans {u v : World σ} {state state' : Validity}
    {transitions transitions' : List Transition} (huv : Fires called e state transitions u v)
    (hvw : Fires called e state' transitions' v w) :
    Fires called e state' (transitions ++ transitions') u w where
  stands := hvw.stands
  handlers := hvw.handlers.trans huv.handlers
  callbacks := hvw.callbacks.trans huv.callbacks
  ends := hvw.ends
  tracked := hvw.tracked
  called := by rw [hvw.called, huv.called, huv.callbacks, List.append_assoc, List.flatMap_append]

/-- Where nothing is called nothing fires. -/
theorem Fires.of_silent (hw : Tuned e w) (h : (silent called e).Allows w w') :
    Fires called e (w.component e.component).state [] w w' := by
  obtain ⟨hw', hsilent⟩ := h hw.stands
  refine ⟨hw', hsilent.handlers, by rw [hsilent.caller], hsilent.steady, ?_,
    by simp [hsilent.called]⟩
  rw [hsilent.caller]
  exact hw.tracked

/-- A component that is held meanwhile fires the same. -/
theorem ensures_holding_fires {m : Run σ Unit} {state : Validity} {transitions : List Transition}
    (hw : Tuned e w)
    (hm : ∀ u, Tuned e u → (u.component e.component).state = (w.component e.component).state →
      m.Ensures u fun _ u' => Fires called e state transitions u u') :
    (Run.holding e.component m).Ensures w fun _ w' => Fires called e state transitions w w' := by
  have hheld : Fires called e (w.component e.component).state [] w (w.hold e.component) :=
    .of_silent hw (silent_of_slight (.hold w e.component))
  rw [Run.ensures_holding]
  refine (hm _ (hheld.tuned hw) hheld.ends).mono ?_
  intro _ u hfires
  have htuned := hfires.tuned (hheld.tuned hw)
  have hreleased : Fires called e (u.component e.component).state [] u (u.release e.component) :=
    .of_silent htuned (silent_of_slight (.release u e.component))
  rw [hfires.ends] at hreleased
  simpa using (hheld.trans hfires).trans hreleased

/-- What handlers do in turn while nothing is called. -/
theorem ensures_forM_silent {f : Handler → Run σ Unit} (hw : Tuned e w)
    (hprovider : (silent called e).Keeps (f (.provider e.provider)))
    (hconfigurator : (silent called e).Keeps (f (.configurator e.configurator)))
    (hcaller : (silent called e).Keeps (f (.caller e.caller))) :
    ((w.component e.component).handlers.forM f).Ensures w fun _ w' =>
      Fires called e (w.component e.component).state [] w w' := by
  have hkeeps := Regime.forM_handlers hw.stands.handlers hprovider hconfigurator hcaller
  exact (hkeeps w hw.stands).mono fun _ _ => Fires.of_silent hw

/-- Handlers have been stopped: nothing was called, and what the caller has seen does not
matter any more. -/
structure Stopped (called : σ → List Nat) (e : Ensemble) (w w' : World σ) : Prop where
  stands : e.Stands w'
  handlers : (w'.component e.component).handlers = (w.component e.component).handlers
  callbacks : (w'.caller e.caller).callbacks = (w.caller e.caller).callbacks
  called : called w'.surroundings = called w.surroundings

theorem Stopped.of_silent {u v : World σ} (huv : Stopped called e u v)
    (hvw : (silent called e).Allows v w) : Stopped called e u w := by
  obtain ⟨hw, hsilent⟩ := hvw huv.stands
  exact ⟨hw, hsilent.handlers.trans huv.handlers, by rw [hsilent.caller, huv.callbacks],
    by rw [hsilent.called, huv.called, List.append_nil]⟩

section Layer

variable {callbacks : World σ → World σ → Prop} {out : Collaborators σ}
  (hout : Counts called callbacks out)
include hout

/-- The caller forgets what it has seen when it is stopped, and the other handlers leave it
alone. -/
theorem ensures_handlers_stop (hw : Tuned e w) :
    ((w.component e.component).handlers.forM fun handler => handler.stop out).Ensures w
      fun _ w' => Stopped called e w w' ∧ (w'.caller e.caller).tracked = .invalid := by
  have H : (silent called e).Publishes e out := publishes_silent hout
  have hothers : ∀ handler ∈ (w.component e.component).handlers, handler ≠ .caller e.caller →
      (silent called e).Keeps (handler.stop out) := by
    intro handler hmem hother
    rcases Ensemble.mem_handlers.mp (hw.stands.handlers handler hmem) with rfl | rfl | rfl
    · exact H.tolerates.provider_stop fun s _ className =>
        Regime.keeps_unregisterService_aside hout.toDiscreet silent_of_aside className s
    · exact H.configurator_withdraw
    · exact absurd rfl hother
  have hstopped : ((w.component e.component).handlers.forM fun handler =>
      handler.stop out).Ensures w fun _ w' => Stopped called e w w' ∧
        (.caller e.caller ∈ (w.component e.component).handlers →
          (w'.caller e.caller).tracked = .invalid) := by
    apply Run.ensures_forM_settled (Stopped called e w)
    · intro _ u hu
      simp only [Handler.stop, Caller.stop, Run.ensures_changeCaller]
      have hforgets : Stopped called e w
          (u.changeCaller e.caller fun c => { c with tracked := .invalid }) :=
        ⟨hu.stands.of_quiet (.changeCaller u _ fun _ => rfl), hu.handlers, by simp [hu.callbacks],
          hu.called⟩
      exact ⟨hforgets, by simp⟩
    · intro handler hmem hother u hu
      refine (hothers handler hmem hother u hu.stands).mono ?_
      intro _ u' hallows
      refine ⟨hu.of_silent hallows, fun htracked => ?_⟩
      rw [(hallows hu.stands).2.caller]
      exact htracked
    · exact ⟨hw.stands, rfl, rfl, rfl⟩
  exact hstopped.mono fun _ _ h => ⟨h.1, h.2 hw.registered⟩

/-- A stop ends in the invalid state, and no change is told. -/
theorem ensures_stop_fires (hw : Tuned e w) :
    (Component.stop out e.component).Ensures w fun _ w' => Fires called e .invalid [] w w' := by
  have H : (silent called e).Publishes e out := publishes_silent hout
  refine ensures_holding_fires hw fun u hu _ => ?_
  simp only [Run.ensures_bind, Run.ensures_component, Run.ensures_changeComponent]
  refine (ensures_handlers_stop hout hu).mono ?_
  rintro _ v ⟨hstopped, htracked⟩
  let x := v.changeComponent e.component fun c => { c with state := .invalid }
  have hx : Fires called e .invalid [] u x := by
    refine ⟨hstopped.stands.changeComponent (fun _ => rfl) fun _ => rfl, ?_, hstopped.callbacks,
      by simp [x], htracked, by simpa [x] using hstopped.called⟩
    rw [← hstopped.handlers]
    simp [x, Component.handlers]
  refine (H.note _ x hx.stands).mono ?_
  intro _ u' hallows
  have hnoted := Fires.of_silent (hx.tuned hu) hallows
  rw [hx.ends] at hnoted
  exact hx.trans hnoted

variable (hcallbacks : ∀ w w', callbacks w w' → (silent called e).Allows w w')
include hcallbacks

theorem ensures_setState_fires (state : Validity) (hw : Tuned e w) :
    (Component.setState out e.component state).Ensures w fun _ w' =>
      Fires called e state
        ((Ensemble.Operation.setState state).change? (w.component e.component).state).toList
        w w' := by
  have H : (silent called e).Publishes e out := publishes_silent hout
  refine ensures_holding_fires hw fun u hu hsame => ?_
  simp only [Run.ensures_bind, Run.ensures_component, hsame, Ensemble.Operation.change?]
  split
  next hstate =>
    have hnothing : Fires called e (u.component e.component).state [] u u := .of_silent hu (.refl u)
    rw [hsame, hstate] at hnothing
    exact (Run.ensures_pure _).mpr hnothing
  next =>
    simp only [Run.ensures_bind, Run.ensures_changeComponent, Run.ensures_component]
    let v := u.changeComponent e.component fun c => { c with state := state }
    have hv : e.Stands v := hu.stands.changeComponent (fun _ => rfl) fun _ => rfl
    have hstate : (v.component e.component).state = state := by simp [v]
    have hhandlers : (v.component e.component).handlers = (u.component e.component).handlers := by
      simp [v, Component.handlers]
    refine (H.note _ v hv).mono ?_
    intro _ x hnoted
    obtain ⟨hx, hsilent⟩ := hnoted hv
    refine (Regime.keeps_tell_aside hout.toDiscreet silent_of_aside _ x hx).mono ?_
    intro _ y hannounced
    obtain ⟨hy, hsilent'⟩ := hannounced hx
    have hbefore : Calls called e [] v y := hsilent.trans hsilent'
    have hsame' := hbefore.handlers.trans hhandlers
    refine (ensures_dispatch_told hout hcallbacks hy.handlers (hsame' ▸ hu.separate) hy
      (hbefore.steady.trans hstate)).mono ?_
    rintro _ u' ⟨hu', htold⟩
    rw [if_pos (hsame' ▸ hu.registered)] at htold
    have hall : Told called e state v u' := .after hbefore htold
    have hcaller : v.caller e.caller = u.caller e.caller := rfl
    refine ⟨hu', hall.handlers.trans hhandlers, ?_, hall.steady.trans hstate, ?_, ?_⟩
    · rw [hall.caller, hcaller]
    · rw [hall.caller]
    · rw [hall.called, hcaller, hu.tracked, hsame]
      simp [v]

theorem ensures_checkValidity_fires (hw : Tuned e w) :
    (Component.checkValidity out e.component).Ensures w fun _ w' =>
      Fires called e .valid
        (Ensemble.Operation.checkValidity.change? (w.component e.component).state).toList w w' := by
  refine ensures_holding_fires hw fun u hu hsame => ?_
  rw [Run.ensures_bind, Run.ensures_component, Component.allReady_eq out hu.stands.handlers,
    pure_bind, ← hsame]
  exact ensures_setState_fires hout hcallbacks .valid hu

theorem ensures_start_fires (hw : Tuned e w) :
    (Component.start out e.component).Ensures w fun _ w' =>
      Fires called e .valid
        (Ensemble.Operation.start.change? (w.component e.component).state).toList w w' := by
  have H : (silent called e).Publishes e out := publishes_silent hout
  refine ensures_holding_fires hw fun u hu hsame => ?_
  simp only [Run.ensures_bind, Run.ensures_component]
  have hstart : (silent called e).Keeps (Provider.start out e.provider) := by
    apply H.tolerates.provider_start
    exact fun s _ className =>
      Regime.keeps_registerService_aside hout.toDiscreet silent_of_aside className s
  refine (ensures_forM_silent hu hstart H.configurator_publish (Regime.keeps_pure ())).mono ?_
  intro _ v hstarted
  have hv := hstarted.tuned hu
  refine (H.note _ v hv.stands).mono ?_
  intro _ x hallows
  have hnoted := Fires.of_silent hv hallows
  refine (ensures_checkValidity_fires hout hcallbacks (hnoted.tuned hv)).mono ?_
  intro _ u' hchecked
  rw [hnoted.ends, hstarted.ends, hsame] at hchecked
  exact (hstarted.trans hnoted).trans hchecked

theorem ensures_operation_fires (operation : Ensemble.Operation) (hw : Tuned e w) :
    (operation.run out e).Ensures w fun _ w' =>
      Fires called e (operation.after (w.component e.component).state)
        (operation.change? (w.component e.component).state).toList w w' := by
  cases operation with
  | start => exact ensures_start_fires hout hcallbacks hw
  | stop => exact ensures_stop_fires hout hw
  | checkValidity => exact ensures_checkValidity_fires hout hcallbacks hw
  | setState state => exact ensures_setState_fires hout hcallbacks state hw
  | setField field value =>
      exact (silent_setField hout field value w hw.stands).mono fun _ _ => Fires.of_silent hw
  | update configuration =>
      exact (silent_updated hout configuration w hw.stands).mono fun _ _ => Fires.of_silent hw

/-- Operations fire one after the other. -/
theorem ensures_operations_fire (operations : List Ensemble.Operation) (hw : Tuned e w) :
    (operations.forM fun operation => operation.run out e).Ensures w fun _ w' =>
      Fires called e
        (operations.foldl (fun state operation => operation.after state)
          (w.component e.component).state)
        (Ensemble.changes (w.component e.component).state operations) w w' := by
  induction operations generalizing w with
  | nil => exact (Run.ensures_pure _).mpr (.of_silent hw (.refl w))
  | cons operation rest ih =>
      rw [Run.ensures_forM_cons]
      refine (ensures_operation_fires hout hcallbacks operation hw).mono ?_
      intro _ u hfirst
      refine (ih (hfirst.tuned hw)).mono ?_
      intro _ w' hrest
      rw [hfirst.ends] at hrest
      exact hfirst.trans hrest

end Layer

/-- A component that was configured once, and declares a callback, has a caller that has
seen the state that it is in. -/
theorem Ensemble.New.tuned (hnew : e.New w)
    (hdeclared : (w.component e.component).declaredCallbacks ≠ []) : Tuned e w where
  stands := hnew.stands
  separate := hnew.separate
  registered := hnew.called hdeclared
  tracked := hnew.tracked.trans hnew.invalid.symm

/-- An element with a method is a declared callback. -/
theorem Caller.readCallbacks_ne_nil (className : String) (methods : Methods)
    {elements : List Element}
    (hdeclared : ∃ element ∈ elements, (element.attribute? "method").isSome = true) :
    (readCallbacks className methods elements).1 ≠ [] := by
  induction elements with
  | nil => simp at hdeclared
  | cons head rest ih =>
      rw [readCallbacks]
      cases hread : CallbackDescriptor.ofElement head with
      | ok declared => simp
      | error cause =>
          apply ih
          obtain ⟨element, hmem, hmethod⟩ := hdeclared
          rcases List.mem_cons.mp hmem with rfl | hrest
          · obtain ⟨method, hmethod⟩ := Option.isSome_iff_exists.mp hmethod
            simp [CallbackDescriptor.ofElement, hmethod] at hread
          · exact ⟨element, hrest, hmethod⟩

/-- The layers of collaborators that keep account call operations that call nothing. -/
theorem exists_counts {out : Collaborators σ} (hout : Layered e.Writes (Counts called) out) :
    ∃ callbacks, (∀ w w', callbacks w w' → (silent called e).Allows w w') ∧
      Counts called callbacks out := by
  cases hout with
  | bottom hrule => exact ⟨_, fun _ _ hfalse => hfalse.elim, hrule⟩
  | above hbelow hrule => exact ⟨_, fun _ _ => silent_layered hbelow, hrule⟩

/-- The bodies that are called follow from the changes of state. -/
theorem callbacks_follow_changes {out : Collaborators σ} {w₀ w₁ w₂ : World σ}
    {operations : List Ensemble.Operation} (hout : Layered e.Writes (Counts called) out)
    (hassembled : e.Assembled out w₀ w₁)
    (hdeclared : ∃ element ∈ (w₁.component e.component).descriptor.root.childrenNamed "callback",
      (element.attribute? "method").isSome = true)
    (hrun : (operations.forM fun operation => operation.run out e).run w₁ = some ((), w₂)) :
    called w₂.surroundings = called w₁.surroundings ++
        (Ensemble.changes .invalid operations).flatMap (w₁.component e.component).bodiesFor ∧
      (w₂.component e.component).state =
        operations.foldl (fun state operation => operation.after state) .invalid ∧
      (w₂.caller e.caller).tracked = (w₂.component e.component).state := by
  obtain ⟨callbacks, hcallbacks, hrule⟩ := exists_counts hout
  obtain ⟨hnew, -⟩ := hassembled.new hrule.log
  have hw : Tuned e w₁ := hnew.tuned (Caller.readCallbacks_ne_nil _ _ hdeclared)
  have hfires := ensures_operations_fire hrule hcallbacks operations hw () w₂ hrun
  rw [hnew.invalid] at hfires
  refine ⟨?_, hfires.ends, hfires.tracked.trans hfires.ends.symm⟩
  rw [hfires.called, hnew.callbacks]
  congr 2
  funext transition
  exact Component.bodies_declaredCallbacks _ transition

/-! ## A clock that ticks -/

/-- A registry and the bodies that were called. -/
structure Tally where
  registry : Registry
  calls : List Nat

namespace Tally

/-- The collaborators of a tally, with what the bodies of methods do. -/
def collaborators (method : Run Tally Ending) : Collaborators Tally :=
  .inMemory registry (fun after tally => { tally with registry := after }) (fun _ tally => tally)
    fun number => do
      Run.changeSurroundings fun tally => { tally with calls := tally.calls ++ [number] }
      method

theorem counts_collaborators {callbacks : World Tally → World Tally → Prop}
    {method : Run Tally Ending}
    (hmethod : ∀ w, method.Ensures w fun _ => Turn (Idle calls) callbacks w) :
    Counts calls callbacks (collaborators method) where
  toDiscreet := discreet_inMemory (fun _ _ => rfl) fun _ _ => rfl
  publish _ _ _ _ := (Run.ensures_pure _).mpr ⟨rfl, rfl⟩
  withdraw _ _ := (Run.ensures_pure _).mpr ⟨rfl, rfl⟩
  call number _ w := by
    simp only [collaborators, Collaborators.inMemory, Run.ensures_bind,
      Run.ensures_changeSurroundings]
    let u := w.changeSurroundings fun tally => { tally with calls := tally.calls ++ [number] }
    have hplatform : u.platform = w.platform := rfl
    have hcalled : u.surroundings.calls = w.surroundings.calls ++ [number] := rfl
    exact (hmethod u).mono fun _ w' hturn => ⟨u, hplatform, hcalled, hturn⟩

/-- The method writes a field and fails. -/
def failing : Collaborators Tally :=
  collaborators do
    Component.setField (collaborators (return .returned)) ⟨0⟩ "zone" (.text "CET")
    return .failed "no time"

theorem layered_failing : Layered Ensemble.clock.Writes (Counts calls) failing := by
  have hbelow : Layered Ensemble.clock.Writes (Counts calls) (collaborators (return .returned)) :=
    .bottom (counts_collaborators fun w => (Run.ensures_pure _).mpr .refl)
  apply hbelow.above
  apply counts_collaborators
  intro w
  simp only [Run.ensures_bind, Run.ensures_pure]
  intro _ w' hrun
  exact .single (.inr (.setField "zone" (.text "CET") hrun))

/-- Three changes to valid, one of them by a start and one behind a stop, and operations that
change nothing. -/
def script : List Ensemble.Operation :=
  [.start, .setState .valid, .stop, .checkValidity, .setState .invalid, .setState .valid]

end Tally

/-- The tick of the clock is called on each change to valid, although it fails. -/
theorem callbacks_follow_changes_clock :
    ∃ w₁ w₂ : World Tally,
      (Component.configure Tally.failing ⟨0⟩
        [.caller ⟨0⟩, .provider ⟨0⟩, .configurator ⟨0⟩] .empty).run (.clock ⟨.empty, []⟩) =
          some ((), w₁) ∧
      (Tally.script.forM fun operation => operation.run Tally.failing .clock).run w₁ =
        some ((), w₂) ∧
      w₂.surroundings.calls = [0, 0, 0] ∧
      (w₂.caller ⟨0⟩).tracked = (w₂.component ⟨0⟩).state := by
  have hends : ((Component.configure Tally.failing ⟨0⟩
      [.caller ⟨0⟩, .provider ⟨0⟩, .configurator ⟨0⟩] .empty).run (.clock ⟨.empty, []⟩)).bind
        (fun first => ((Tally.script.forM fun operation =>
          operation.run Tally.failing .clock).run first.2).map fun _ =>
            decide ((first.2.provider ⟨0⟩).services = [⟨0⟩] ∧
              (first.2.configurator ⟨0⟩).properties = [⟨0⟩] ∧
              (∃ element ∈ (first.2.component ⟨0⟩).descriptor.root.childrenNamed "callback",
                (element.attribute? "method").isSome = true) ∧
              first.2.surroundings.calls ++ (Ensemble.changes .invalid Tally.script).flatMap
                (first.2.component ⟨0⟩).bodiesFor = [0, 0, 0])) = some true := by
    decide +kernel
  obtain ⟨⟨⟨⟩, w₁⟩, hconfigured, hends⟩ := Option.bind_eq_some_iff.mp hends
  obtain ⟨⟨⟨⟩, w₂⟩, hrun, hfacts⟩ := Option.map_eq_some_iff.mp hends
  obtain ⟨hservices, hproperties, hdeclared, hcalls⟩ := of_decide_eq_true hfacts
  obtain ⟨hcalled, -, htracked⟩ := callbacks_follow_changes Tally.layered_failing
    (Ensemble.assembled_clock (by decide) hconfigured hservices hproperties) hdeclared hrun
  exact ⟨w₁, w₂, hconfigured, hrun, hcalled.trans hcalls, htracked⟩

end Componentry

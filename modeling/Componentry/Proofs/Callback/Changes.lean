import Componentry.Proofs.Callback.Enduring
import Componentry.Proofs.Callback.Tracking

/-!
# Callbacks run on changes

A caller matches its callbacks against the state that it has seen last. If an operation that
sets the state begins while the caller has not seen the present one, the caller may be told a
state that it has seen already, and then it calls the callbacks whose two states are the same.
That happens where a handler ahead of the caller, or a registry that it asks, sets the state
again in the middle of a change.

Where no operation is so out of step with the caller, the bodies that are called are those
declared for changes from one state to the other, whoever calls operations and whenever. An
operation inside another one comes in between the callbacks of the outer change, so the order is
not that of the changes.

Whether an operation was out of step cannot be seen afterwards, so the surroundings note it.
-/

namespace Componentry

variable {σ α : Type}

theorem Handler.eq_caller {handler : Handler} {k : Ref .caller} (h : handler.caller? = some k) :
    handler = .caller k := by
  cases handler with
  | caller s => rw [Option.some.inj h]
  | _ => cases h

/-- Whether the two states that a callback is declared for differ. -/
def Callback.isGenuine (callback : Callback) : Bool :=
  callback.declared.initial != callback.declared.final

/-- Only genuine callbacks run on a change from one state to another one. -/
theorem Callback.bodies_isGenuine (callbacks : List Callback) {change : Transition}
    (hchange : change.source ≠ change.target) :
    Callback.bodies (callbacks.filter Callback.isGenuine) change =
      Callback.bodies callbacks change := by
  rw [bodies, bodies, List.filter_filter]
  congr 1
  refine List.filter_congr fun callback _ => ?_
  cases hfor : callback.declared.isFor change with
  | false => rfl
  | true =>
      rw [CallbackDescriptor.isFor, Transition.isFrom, Bool.and_eq_true, decide_eq_true_eq,
        decide_eq_true_eq] at hfor
      simp [isGenuine, ← hfor.1, ← hfor.2, hchange]

/-- Bodies of which some are given, and the others are those that callbacks run on changes from
one state to another one; in any order. -/
def Callback.Accounts (callbacks : List Callback) (given numbers : List Nat) : Prop :=
  ∃ changes : List Transition, (∀ change ∈ changes, change.source ≠ change.target) ∧
    numbers.Perm (given ++ changes.flatMap (Callback.bodies callbacks))

namespace Callback.Accounts

variable {callbacks : List Callback} {given given' numbers numbers' : List Nat}

theorem nil : Accounts callbacks [] [] := ⟨[], by simp, .refl _⟩

theorem single (number : Nat) : Accounts callbacks [number] [number] := ⟨[], by simp, .refl _⟩

theorem append (h : Accounts callbacks given numbers) (h' : Accounts callbacks given' numbers') :
    Accounts callbacks (given ++ given') (numbers ++ numbers') := by
  obtain ⟨changes, hchanges, hperm⟩ := h
  obtain ⟨changes', hchanges', hperm'⟩ := h'
  refine ⟨changes ++ changes', ?_, ?_⟩
  · exact fun change hmem => (List.mem_append.mp hmem).elim (hchanges change) (hchanges' change)
  · rw [List.flatMap_append]
    refine (hperm.append hperm').trans ?_
    rw [List.append_assoc, List.append_assoc]
    refine List.Perm.append_left given ?_
    rw [← List.append_assoc, ← List.append_assoc]
    exact List.perm_append_comm.append_right _

/-- The bodies that are run on one more change need not be given. -/
theorem of_change {change : Transition} (hchange : change.source ≠ change.target)
    (h : Accounts callbacks (Callback.bodies callbacks change) numbers) :
    Accounts callbacks [] numbers := by
  obtain ⟨changes, hchanges, hperm⟩ := h
  exact ⟨change :: changes, List.forall_mem_cons.mpr ⟨hchange, hchanges⟩, hperm⟩

end Callback.Accounts

/-- What the surroundings keep of a caller. -/
structure Roll where
  /-- The bodies that have been called. -/
  called : List Nat
  /-- How many operations were out of step with the caller. -/
  astray : Nat

/-- What was not noted all the way was not noted on either part of it. -/
theorem Roll.unnoted {t u v : Roll} (htu : t.astray ≤ u.astray) (huv : u.astray ≤ v.astray)
    (hsame : v.astray = t.astray) : u.astray = t.astray ∧ v.astray = u.astray := by
  omega

/-- Collaborators that keep the roll of the bodies that are called, and may take turns in all
that is asked of them. -/
structure Rolls (roll : σ → Roll) (callbacks : World σ → World σ → Prop) (out : Collaborators σ) :
    Prop where
  log : ∀ record t, roll (out.log record t) = roll t
  announce : ∀ event t, roll (out.announce event t) = roll t
  register : ∀ specifications properties factory w,
    (out.register specifications properties factory).Ensures w fun _ =>
      Turn (Idle roll) callbacks w
  unregister : ∀ handle w, (out.unregister handle).Ensures w fun _ => Turn (Idle roll) callbacks w
  update : ∀ handle properties w,
    (out.update handle properties).Ensures w fun _ => Turn (Idle roll) callbacks w
  publish : ∀ identity properties target w,
    (out.publish identity properties target).Ensures w fun _ => Turn (Idle roll) callbacks w
  withdraw : ∀ handle w, (out.withdraw handle).Ensures w fun _ => Turn (Idle roll) callbacks w
  call : ∀ number component w, (out.call number component).Ensures w fun _ w' =>
    ∃ u, u.platform = w.platform ∧
      roll u.surroundings =
        { roll w.surroundings with called := (roll w.surroundings).called ++ [number] } ∧
      Turn (Idle roll) callbacks u w'
  notify : ∀ number notice w, (out.notify number notice).Ensures w fun _ =>
    Turn (Idle roll) callbacks w
  ready : ∀ number w, (out.ready number).Ensures w fun _ => Turn (Idle roll) callbacks w

instance (e : Ensemble) (w : World σ) : Decidable (Abreast e w) :=
  inferInstanceAs (Decidable (_ = _))

namespace Ensemble

/-- Whether an operation sets the state, to another one if it says which one. -/
def Operation.sets : Operation → Validity → Bool
  | start, _ | stop, _ | checkValidity, _ => true
  | setState target, state => target != state
  | setField _ _, _ | update _, _ => false

/-- How much an operation is out of step: it sets the state, and the caller has not seen the
state that the component is in, when the operation begins or when it ends. -/
def Operation.lag (e : Ensemble) (operation : Operation) (w w' : World σ) : Nat :=
  if operation.sets (w.component e.component).state ∧ ¬ (Abreast e w ∧ Abreast e w') then 1 else 0

theorem abreast_of_lag {e : Ensemble} {operation : Operation} {w w' : World σ}
    (hsets : operation.sets (w.component e.component).state = true)
    (hlag : operation.lag e w w' = 0) : Abreast e w ∧ Abreast e w' := by
  rw [Operation.lag, ite_eq_right_iff] at hlag
  exact Decidable.byContradiction fun hbehind => Nat.one_ne_zero (hlag ⟨hsets, hbehind⟩)

/-- An operation on an ensemble ends, and it is noted whether it was out of step. -/
structure Ventures (roll : σ → Roll) (e : Ensemble) (out : Collaborators σ) (w w' : World σ) :
    Prop where
  ended : ∃ (operation : Operation) (u : World σ), (operation.run out e).run w = some ((), u) ∧
    w'.platform = u.platform ∧
    roll w'.surroundings =
      { roll u.surroundings with
        astray := (roll u.surroundings).astray + operation.lag e w u }

end Ensemble

/-! ## What is called while nothing is out of step -/

/-- Neither the state nor the caller has changed, and nothing was called. -/
structure Steady (roll : σ → Roll) (e : Ensemble) (w w' : World σ) : Prop where
  state : (w'.component e.component).state = (w.component e.component).state
  caller : w'.caller e.caller = w.caller e.caller
  called : (roll w'.surroundings).called = (roll w.surroundings).called

/-- Some bodies have been called, and besides them those that callbacks run on changes. -/
def Musters (roll : σ → Roll) (callbacks : List Callback) (given : List Nat) (w w' : World σ) :
    Prop :=
  ∃ numbers, (roll w'.surroundings).called = (roll w.surroundings).called ++ numbers ∧
    Callback.Accounts callbacks given numbers

/-- Operations may have run. If none was out of step, either they did nothing that matters, or
the caller was abreast of the component and is so again. -/
structure InStep (roll : σ → Roll) (e : Ensemble) (callbacks : List Callback) (w w' : World σ) :
    Prop where
  noted : (roll w.surroundings).astray ≤ (roll w'.surroundings).astray
  stepped : (roll w'.surroundings).astray = (roll w.surroundings).astray →
    Steady roll e w w' ∨ Abreast e w ∧ Abreast e w' ∧ Musters roll callbacks [] w w'

/-- The component has one caller, with the callbacks that are given. -/
structure Lone (e : Ensemble) (callbacks : List Callback) (w : World σ) : Prop where
  sole : (w.component e.component).handlers.filterMap Handler.caller? = [e.caller]
  callbacks : (w.caller e.caller).callbacks = callbacks

variable {roll : σ → Roll} {e : Ensemble} {callbacks : List Callback} {given given' : List Nat}
  {u v w w' : World σ}

theorem Steady.refl (w : World σ) : Steady roll e w w := ⟨rfl, rfl, rfl⟩

theorem Steady.trans (huv : Steady roll e u v) (hvw : Steady roll e v w) : Steady roll e u w :=
  ⟨hvw.state.trans huv.state, hvw.caller.trans huv.caller, hvw.called.trans huv.called⟩

theorem Steady.abreast_iff (h : Steady roll e w w') : Abreast e w' ↔ Abreast e w := by
  rw [Abreast, Abreast, h.state, h.caller]

theorem Steady.musters (h : Steady roll e w w') : Musters roll callbacks [] w w' :=
  ⟨[], by rw [h.called, List.append_nil], .nil⟩

theorem Musters.refl (w : World σ) : Musters roll callbacks [] w w :=
  ⟨[], (List.append_nil _).symm, .nil⟩

theorem Musters.trans (huv : Musters roll callbacks given u v)
    (hvw : Musters roll callbacks given' v w) : Musters roll callbacks (given ++ given') u w := by
  obtain ⟨numbers, hcalled, haccounts⟩ := huv
  obtain ⟨numbers', hcalled', haccounts'⟩ := hvw
  exact ⟨numbers ++ numbers', by rw [hcalled', hcalled, List.append_assoc],
    haccounts.append haccounts'⟩

theorem InStep.refl (w : World σ) : InStep roll e callbacks w w :=
  ⟨Nat.le_refl _, fun _ => .inl (.refl w)⟩

theorem InStep.trans (huv : InStep roll e callbacks u v) (hvw : InStep roll e callbacks v w) :
    InStep roll e callbacks u w := by
  refine ⟨Nat.le_trans huv.noted hvw.noted, fun hsame => ?_⟩
  obtain ⟨hsame, hsame'⟩ := Roll.unnoted huv.noted hvw.noted hsame
  have hfirst := huv.stepped hsame
  have hsecond := hvw.stepped hsame'
  rcases hfirst with hsteady | ⟨habreast, hseen, hmusters⟩
  · rcases hsecond with hsteady' | ⟨habreast', hseen, hmusters'⟩
    · exact .inl (hsteady.trans hsteady')
    · exact .inr ⟨hsteady.abreast_iff.mp habreast', hseen, hsteady.musters.trans hmusters'⟩
  · rcases hsecond with hsteady' | ⟨-, hseen', hmusters'⟩
    · exact .inr ⟨habreast, hsteady'.abreast_iff.mpr hseen, hmusters.trans hsteady'.musters⟩
    · exact .inr ⟨habreast, hseen', hmusters.trans hmusters'⟩

/-- The regime of what runs within operations. -/
def mustering (roll : σ → Roll) (e : Ensemble) (callbacks : List Callback) : Regime σ where
  holds := Lone e callbacks
  leads := InStep roll e callbacks
  refl := InStep.refl
  trans := InStep.trans

theorem Steady.inStep (h : Steady roll e w w')
    (hnoted : (roll w'.surroundings).astray = (roll w.surroundings).astray) :
    InStep roll e callbacks w w' :=
  ⟨Nat.le_of_eq hnoted.symm, fun _ => .inl h⟩

theorem Inert.steady (h : Inert e.component e.caller w w') : Steady roll e w w' :=
  ⟨h.state, h.caller, by rw [h.surroundings]⟩

theorem Lone.of_inert (hw : Lone e callbacks w) (h : Inert e.component e.caller w w') :
    Lone e callbacks w' := by
  refine ⟨?_, by rw [h.caller, hw.callbacks]⟩
  rw [Component.handlers, h.attachments]
  exact hw.sole

theorem Lone.of_platform (hw : Lone e callbacks w) (hplatform : w'.platform = w.platform) :
    Lone e callbacks w' := by
  obtain ⟨hcomponent, -, -, -, -, hcaller⟩ := World.objects_of_platform hplatform
  exact ⟨hcomponent ▸ hw.sole, hcaller ▸ hw.callbacks⟩

theorem mustering_of_inert (h : Inert e.component e.caller w w') :
    (mustering roll e callbacks).Allows w w' :=
  fun hw => ⟨hw.of_inert h, h.steady.inStep (by rw [h.surroundings])⟩

theorem mustering_of_idle (h : Idle roll w w') : (mustering roll e callbacks).Allows w w' := by
  obtain ⟨hplatform, hroll⟩ := h
  obtain ⟨hcomponent, -, -, -, -, hcaller⟩ := World.objects_of_platform hplatform
  have hsteady : Steady roll e w w' := ⟨by rw [hcomponent], by rw [hcaller], by rw [hroll]⟩
  exact fun hw => ⟨hw.of_platform hplatform, hsteady.inStep (by rw [hroll])⟩

/-- What has run since a world, some bodies being given: if nothing was out of step and the
caller was abreast of the component in that world, then it is so again. -/
structure Ran (roll : σ → Roll) (e : Ensemble) (callbacks : List Callback) (given : List Nat)
    (w w' : World σ) : Prop where
  lone : Lone e callbacks w'
  noted : (roll w.surroundings).astray ≤ (roll w'.surroundings).astray
  ran : (roll w'.surroundings).astray = (roll w.surroundings).astray → Abreast e w →
    Abreast e w' ∧ Musters roll callbacks given w w'

/-- A change of state has begun, and the caller is yet to be told. -/
structure Due (roll : σ → Roll) (e : Ensemble) (callbacks : List Callback) (state : Validity)
    (w w' : World σ) : Prop where
  lone : Lone e callbacks w'
  noted : (roll w.surroundings).astray ≤ (roll w'.surroundings).astray
  due : (roll w'.surroundings).astray = (roll w.surroundings).astray → Abreast e w →
    (w'.component e.component).state = state ∧
      (w'.caller e.caller).tracked = (w.component e.component).state ∧
      (roll w'.surroundings).called = (roll w.surroundings).called

theorem Ran.then (h : Ran roll e callbacks given u v)
    (hallows : (mustering roll e callbacks).Allows v w) : Ran roll e callbacks given u w := by
  obtain ⟨hlone, hstep⟩ := hallows h.lone
  refine ⟨hlone, Nat.le_trans h.noted hstep.noted, fun hsame habreast => ?_⟩
  obtain ⟨hsame, hsame'⟩ := Roll.unnoted h.noted hstep.noted hsame
  obtain ⟨hseen, hmusters⟩ := h.ran hsame habreast
  have hmusters' (hrest : Musters roll callbacks [] v w) : Musters roll callbacks given u w := by
    simpa using hmusters.trans hrest
  rcases hstep.stepped hsame' with hsteady | hseen'
  · exact ⟨hsteady.abreast_iff.mpr hseen, hmusters' hsteady.musters⟩
  · exact ⟨hseen'.2.1, hmusters' hseen'.2.2⟩

/-- What is in step has run. -/
theorem Ran.of_allows (hu : Lone e callbacks u)
    (hallows : (mustering roll e callbacks).Allows u w) : Ran roll e callbacks [] u w :=
  Ran.then ⟨hu, Nat.le_refl _, fun _ habreast => ⟨habreast, .refl u⟩⟩ hallows

theorem Ran.trans (h : Ran roll e callbacks given u v) (h' : Ran roll e callbacks given' v w) :
    Ran roll e callbacks (given ++ given') u w := by
  refine ⟨h'.lone, Nat.le_trans h.noted h'.noted, fun hsame habreast => ?_⟩
  obtain ⟨hsame, hsame'⟩ := Roll.unnoted h.noted h'.noted hsame
  obtain ⟨hseen, hmusters⟩ := h.ran hsame habreast
  obtain ⟨hseen', hmusters'⟩ := h'.ran hsame' hseen
  exact ⟨hseen', hmusters.trans hmusters'⟩

theorem Due.then {state : Validity} (h : Due roll e callbacks state u v)
    (hchange : (u.component e.component).state ≠ state)
    (hallows : (mustering roll e callbacks).Allows v w) : Due roll e callbacks state u w := by
  obtain ⟨hlone, hstep⟩ := hallows h.lone
  refine ⟨hlone, Nat.le_trans h.noted hstep.noted, fun hsame habreast => ?_⟩
  obtain ⟨hsame, hsame'⟩ := Roll.unnoted h.noted hstep.noted hsame
  obtain ⟨hstate, htracked, hcalled⟩ := h.due hsame habreast
  rcases hstep.stepped hsame' with hsteady | hseen
  · exact ⟨hsteady.state.trans hstate, by rw [hsteady.caller, htracked],
      hsteady.called.trans hcalled⟩
  · -- The caller is not abreast of the component before it is told.
    have hbehind : (v.caller e.caller).tracked = (v.component e.component).state := hseen.1
    rw [hstate, htracked] at hbehind
    exact absurd hbehind hchange

theorem Ran.inStep (h : Ran roll e callbacks [] u v) (habreast : Abreast e u) :
    InStep roll e callbacks u v :=
  ⟨h.noted, fun hsame => .inr ⟨habreast, h.ran hsame habreast⟩⟩

/-- The regime of a stop, behind which the caller need not be abreast of the component. -/
def tallying (roll : σ → Roll) (e : Ensemble) (callbacks : List Callback) : Regime σ where
  holds := Lone e callbacks
  leads w w' := (roll w.surroundings).astray ≤ (roll w'.surroundings).astray ∧
    ((roll w'.surroundings).astray = (roll w.surroundings).astray → Musters roll callbacks [] w w')
  refl w := ⟨Nat.le_refl _, fun _ => .refl w⟩
  trans := by
    rintro u v w ⟨huv, hmusters⟩ ⟨hvw, hmusters'⟩
    refine ⟨Nat.le_trans huv hvw, fun hsame => ?_⟩
    obtain ⟨hsame, hsame'⟩ := Roll.unnoted huv hvw hsame
    exact (hmusters hsame).trans (hmusters' hsame')

theorem tallying_of_mustering (h : (mustering roll e callbacks).Allows w w') :
    (tallying roll e callbacks).Allows w w' := by
  intro hw
  obtain ⟨hw', hstep⟩ := h hw
  refine ⟨hw', hstep.noted, fun hsame => ?_⟩
  rcases hstep.stepped hsame with hsteady | ⟨-, -, hmusters⟩
  · exact hsteady.musters
  · exact hmusters

/-- Collaborators in which whatever runs keeps to the regime, also behind the body of a callback. -/
structure Mustered (roll : σ → Roll) (e : Ensemble) (callbacks : List Callback)
    (out : Collaborators σ) : Prop
    extends (mustering roll e callbacks).Endures e.component e.caller out where
  call : ∀ number component w, Lone e callbacks w →
    (out.call number component).Ensures w fun _ => Ran roll e callbacks [number] w

theorem Rolls.mustered {acts : World σ → World σ → Prop} {out : Collaborators σ}
    (hout : Rolls roll acts out)
    (hacts : ∀ w w', acts w w' → (mustering roll e callbacks).Allows w w') :
    Mustered roll e callbacks out := by
  have hturns {w w' : World σ} (hturn : Turn (Idle roll) acts w w') :
      (mustering roll e callbacks).Allows w w' :=
    .of_turn (fun _ _ => mustering_of_idle) hacts hturn
  exact
    { inert := mustering_of_inert
      note := fun record w _ => by
        rw [Run.ensures_note]
        exact mustering_of_idle ⟨rfl, hout.log record _⟩
      tell := fun event w _ => by
        rw [Run.ensures_tell]
        exact mustering_of_idle ⟨rfl, hout.announce event _⟩
      register := fun _ _ _ w _ => (hout.register _ _ _ w).mono fun _ _ => hturns
      unregister := fun _ w _ => (hout.unregister _ w).mono fun _ _ => hturns
      update := fun _ _ w _ => (hout.update _ _ w).mono fun _ _ => hturns
      publish := fun _ _ _ w _ => (hout.publish _ _ _ w).mono fun _ _ => hturns
      withdraw := fun _ w _ => (hout.withdraw _ w).mono fun _ _ => hturns
      notify := fun _ _ w _ => (hout.notify _ _ w).mono fun _ _ => hturns
      ready := fun _ w _ => (hout.ready _ w).mono fun _ _ => hturns
      call := fun number component w hw => by
        refine (hout.call number component w).mono ?_
        rintro _ w' ⟨u, hplatform, hroll, hturn⟩
        obtain ⟨hcomponent, -, -, -, -, hcaller⟩ := World.objects_of_platform hplatform
        have hbegun : Ran roll e callbacks [number] w u := by
          refine ⟨hw.of_platform hplatform, Nat.le_of_eq (by rw [hroll]),
            fun _ habreast => ⟨?_, [number], ?_, .single number⟩⟩
          · rw [Abreast, hcomponent, hcaller]
            exact habreast
          · rw [hroll]
        exact hbegun.then (hturns hturn) }

section Layer

variable {out : Collaborators σ} (H : Mustered roll e callbacks out)
include H

/-- Callbacks are called one after the other, however they end. -/
theorem ensures_callbacks_ran (className : String) (component : Ref .component)
    (called : List Callback) (hw : Lone e callbacks w) :
    (called.forM (Caller.run out className component)).Ensures w fun _ =>
      Ran roll e callbacks (called.filterMap Callback.body?) w := by
  have hnone {u : World σ} (hu : Lone e callbacks u) : Ran roll e callbacks [] u u :=
    .of_allows hu (.refl u)
  induction called generalizing w with
  | nil => exact (Run.ensures_pure _).mpr (hnone hw)
  | cons callback rest ih =>
      rw [Run.ensures_forM_cons, Caller.run, Run.ensures_bind]
      refine (H.note _ w hw).mono fun _ u hnoted => ?_
      obtain ⟨hu, -⟩ := hnoted hw
      have hbegun := Ran.of_allows hw hnoted
      rw [Run.ensures_bind]
      have hinvoked : (callback.invoke out component).Ensures u fun _ =>
          Ran roll e callbacks callback.body?.toList u := by
        refine Callback.ensures_invoke (fun hmute => ?_) fun number hbody => ?_
        · exact hmute ▸ hnone hu
        · rw [hbody]
          exact H.call number component u hu
      refine hinvoked.mono fun answer v hcalled => ?_
      have hsofar : Ran roll e callbacks callback.body?.toList w v := by
        simpa using hbegun.trans hcalled
      have hrest {x : World σ} (hx : Ran roll e callbacks callback.body?.toList w x) :
          (rest.forM (Caller.run out className component)).Ensures x fun _ =>
            Ran roll e callbacks ((callback :: rest).filterMap Callback.body?) w := by
        refine (ih hx.lone).mono fun _ w' hran => ?_
        cases hbody : callback.body? <;> simpa [hbody] using hx.trans hran
      split
      · exact (Run.ensures_pure _).mpr (hrest hsofar)
      · refine (H.note _ v hsofar.lone).mono fun _ x hlogged => ?_
        exact hrest (hsofar.then hlogged)

/-- A caller that is told of a change runs what is declared for the change from the state that it
has seen. If nothing was out of step, that is the state that the component had before. -/
theorem ensures_told_ran {state : Validity} (hchange : (w.component e.component).state ≠ state)
    (hdue : Due roll e callbacks state w u) (hstate : (u.component e.component).state = state) :
    (Caller.stateChanged out e.caller state).Ensures u fun _ => Ran roll e callbacks [] w := by
  simp only [Caller.stateChanged, Run.ensures_bind, Run.ensures_caller, Run.ensures_changeCaller]
  let v := u.changeCaller e.caller fun c => { c with tracked := state }
  have hseen : Ran roll e callbacks [] w v := by
    refine ⟨⟨hdue.lone.sole, ?_⟩, hdue.noted, fun hsame habreast => ⟨?_, ?_⟩⟩
    · simp [v, hdue.lone.callbacks]
    · simp [v, Abreast, hstate]
    · obtain ⟨-, -, hcalled⟩ := hdue.due hsame habreast
      exact ⟨[], by simpa [v] using hcalled, .nil⟩
  refine Run.ensures_whileAlive hseen fun component _ => ?_
  rw [Run.ensures_bind, Run.ensures_component]
  have hheld := hseen.then (H.inert (.hold v component))
  refine (ensures_callbacks_ran H _ component _ hheld.lone).mono fun _ x hran => ?_
  suffices Ran roll e callbacks [] w x from this.then (H.inert (.release x component))
  have hall := hheld.trans hran
  refine ⟨hall.lone, hall.noted, fun hsame habreast => ?_⟩
  obtain ⟨hsame', -⟩ := Roll.unnoted hdue.noted hran.noted hsame
  obtain ⟨-, htracked, -⟩ := hdue.due hsame' habreast
  obtain ⟨hseen', numbers, hcalled, haccounts⟩ := hall.ran hsame habreast
  rw [hdue.lone.callbacks] at haccounts
  exact ⟨hseen', numbers, hcalled, .of_change (htracked ▸ hchange) haccounts⟩

/-- The caller is among those that are told of a change, unless another change begins before it
is told. That one is out of step. -/
theorem ensures_dispatch_ran {state : Validity} {handlers : List Handler}
    (hsole : handlers.filterMap Handler.caller? = [e.caller])
    (hchange : (w.component e.component).state ≠ state) (hdue : Due roll e callbacks state w u) :
    (Component.dispatch out e.component state handlers).Ensures u fun _ =>
      Ran roll e callbacks [] w := by
  induction handlers generalizing u with
  | nil => cases hsole
  | cons handler rest ih =>
      simp only [Component.dispatch, Run.ensures_bind, Run.ensures_component]
      split
      next hsuperseded =>
        refine (H.note _ u hdue.lone).mono fun _ v hnoted => ?_
        refine Ran.then ⟨hdue.lone, hdue.noted, fun hsame habreast => ?_⟩ hnoted
        exact absurd (hdue.due hsame habreast).1 hsuperseded
      next hcurrent =>
        have hstate : (u.component e.component).state = state := Decidable.not_not.mp hcurrent
        rw [Run.ensures_bind]
        cases hcaller : handler.caller? with
        | none =>
            rw [List.filterMap_cons_none hcaller] at hsole
            refine (H.handler_stateChanged hcaller state u hdue.lone).mono fun _ v hallows => ?_
            exact ih hsole (hdue.then hchange hallows)
        | some k =>
            rw [List.filterMap_cons_some hcaller] at hsole
            obtain ⟨rfl, hrest⟩ := List.cons_eq_cons.mp hsole
            rw [Handler.eq_caller hcaller]
            refine (ensures_told_ran H hchange hdue hstate).mono fun _ v hran => ?_
            refine (H.component_dispatch e.component state ?_ v hran.lone).mono fun _ w' => hran.then
            exact List.filterMap_eq_nil_iff.mp hrest

/-- A state is set. If it is the state already, nothing that matters happens. -/
theorem ensures_setState_ran (state : Validity) (hw : Lone e callbacks w) :
    (Component.setState out e.component state).Ensures w fun _ w' =>
      Ran roll e callbacks [] w w' ∧
        ((w.component e.component).state = state → (mustering roll e callbacks).Allows w w') := by
  have hhold : Inert e.component e.caller w (w.hold e.component) := .hold w e.component
  have hheld := H.inert hhold
  obtain ⟨hv, -⟩ := hheld hw
  rw [Component.setState, Run.ensures_holding]
  simp only [Run.ensures_bind, Run.ensures_component]
  split
  next hsame =>
    rw [Run.ensures_pure]
    have hallows := hheld.trans (H.inert (.release (w.hold e.component) e.component))
    exact ⟨.of_allows hw hallows, fun _ => hallows⟩
  next hchange =>
    have hchange : (w.component e.component).state ≠ state := fun hsame =>
      hchange (hhold.state.trans hsame)
    simp only [Run.ensures_bind, Run.ensures_changeComponent]
    let v := (w.hold e.component).changeComponent e.component fun c => { c with state := state }
    have hdue : Due roll e callbacks state w v := by
      refine ⟨⟨?_, hv.callbacks⟩, Nat.le_refl _, fun _ habreast => ⟨?_, habreast, rfl⟩⟩
      · simpa [v, Component.handlers] using hv.sole
      · simp [v]
    refine (H.note _ v hdue.lone).mono fun _ u hnoted => ?_
    have hdue := hdue.then hchange hnoted
    refine (H.tell _ u hdue.lone).mono fun _ x htold => ?_
    have hdue := hdue.then hchange htold
    rw [Run.ensures_component]
    refine (ensures_dispatch_ran H hdue.lone.sole hchange hdue).mono fun _ y hran => ?_
    exact ⟨hran.then (H.inert (.release y e.component)), fun hsame => absurd hsame hchange⟩

theorem ensures_checkValidity_ran (hw : Lone e callbacks w) :
    (Component.checkValidity out e.component).Ensures w fun _ => Ran roll e callbacks [] w := by
  have hheld := H.inert (.hold w e.component)
  rw [Component.checkValidity, Run.ensures_holding]
  simp only [Run.ensures_bind, Run.ensures_component]
  refine (hheld.then hw (H.allReady _)).mono fun ready u hready => ?_
  refine (ensures_setState_ran H (.ofBool ready) (hready hw).1).mono fun _ v hset => ?_
  exact ((Ran.of_allows hw hready).trans hset.1).then (H.inert (.release v e.component))

theorem ensures_start_ran (hw : Lone e callbacks w) :
    (Component.start out e.component).Ensures w fun _ => Ran roll e callbacks [] w := by
  have hheld := H.inert (.hold w e.component)
  rw [Component.start, Run.ensures_holding]
  simp only [Run.ensures_bind, Run.ensures_component]
  have hstarts : (mustering roll e callbacks).Keeps
      (((w.hold e.component).component e.component).handlers.forM fun handler =>
        handler.start out) :=
    Regime.Keeps.forM fun handler _ => H.handler_start handler
  refine (hheld.then hw hstarts).mono fun _ u hstarted => ?_
  refine (hstarted.then hw (H.note _)).mono fun _ v hnoted => ?_
  refine (ensures_checkValidity_ran H (hnoted hw).1).mono fun _ x hchecked => ?_
  exact ((Ran.of_allows hw hnoted).trans hchecked).then (H.inert (.release x e.component))

/-- Stopping the caller makes it forget what it has seen, and nothing is called. -/
theorem tallying_stop : (tallying roll e callbacks).Keeps (Component.stop out e.component) := by
  intro w hw
  rw [Component.stop, Run.ensures_holding]
  simp only [Run.ensures_bind, Run.ensures_component]
  have hheld := tallying_of_mustering (H.inert (.hold w e.component))
  have hstops : (tallying roll e callbacks).Keeps
      (((w.hold e.component).component e.component).handlers.forM fun handler =>
        handler.stop out) := by
    refine Regime.Keeps.forM fun handler _ => ?_
    by_cases hcaller : handler = .caller e.caller
    · intro u _
      simp only [hcaller, Handler.stop, Caller.stop, Run.ensures_changeCaller]
      exact fun hu => ⟨⟨hu.sole, by simp [hu.callbacks]⟩, Nat.le_refl _, fun _ => .refl u⟩
    · exact (H.handler_stop hcaller).weaken (fun _ hu => hu) fun _ _ => tallying_of_mustering
  refine (hheld.then hw hstops).mono fun _ u hstopped => ?_
  rw [Run.ensures_changeComponent]
  have hended : (tallying roll e callbacks).Allows u
      (u.changeComponent e.component fun c => { c with state := .invalid }) := by
    refine fun hu => ⟨⟨?_, hu.callbacks⟩, Nat.le_refl _, fun _ => .refl u⟩
    simpa [Component.handlers] using hu.sole
  have hended := hstopped.trans hended
  refine (H.note _ _ (hended hw).1).mono fun _ v hnoted => ?_
  exact hended.trans (tallying_of_mustering (hnoted.trans (H.inert (.release v e.component))))

/-- What an operation does that is not out of step. -/
theorem ensures_operation_inStep (operation : Ensemble.Operation) (hw : Lone e callbacks w) :
    (operation.run out e).Ensures w fun _ w' => Lone e callbacks w' ∧
      (roll w.surroundings).astray ≤ (roll w'.surroundings).astray ∧
      (operation.lag e w w' = 0 → InStep roll e callbacks w w') := by
  have hkeeps {m : Run σ Unit} (hm : (mustering roll e callbacks).Keeps m) :
      m.Ensures w fun _ w' => Lone e callbacks w' ∧
        (roll w.surroundings).astray ≤ (roll w'.surroundings).astray ∧
        (operation.lag e w w' = 0 → InStep roll e callbacks w w') := by
    refine (hm w hw).mono fun _ w' hallows => ?_
    obtain ⟨hw', hstep⟩ := hallows hw
    exact ⟨hw', hstep.noted, fun _ => hstep⟩
  cases operation with
  | start =>
      refine (ensures_start_ran H hw).mono fun _ w' hran => ?_
      exact ⟨hran.lone, hran.noted, fun hlag => hran.inStep (Ensemble.abreast_of_lag rfl hlag).1⟩
  | stop =>
      refine (tallying_stop H w hw).mono fun _ w' hallows => ?_
      obtain ⟨hw', hnoted, hmusters⟩ := hallows hw
      refine ⟨hw', hnoted, fun hlag => ⟨hnoted, fun hsame => .inr ?_⟩⟩
      obtain ⟨habreast, habreast'⟩ := Ensemble.abreast_of_lag rfl hlag
      exact ⟨habreast, habreast', hmusters hsame⟩
  | checkValidity =>
      refine (ensures_checkValidity_ran H hw).mono fun _ w' hran => ?_
      exact ⟨hran.lone, hran.noted, fun hlag => hran.inStep (Ensemble.abreast_of_lag rfl hlag).1⟩
  | setState state =>
      refine (ensures_setState_ran H state hw).mono fun _ w' hset => ?_
      obtain ⟨hran, hunset⟩ := hset
      refine ⟨hran.lone, hran.noted, fun hlag => ?_⟩
      by_cases hsame : (w.component e.component).state = state
      · exact (hunset hsame hw).2
      · have hsets : (Ensemble.Operation.setState state).sets (w.component e.component).state = true :=
          bne_iff_ne.mpr (Ne.symm hsame)
        exact hran.inStep (Ensemble.abreast_of_lag hsets hlag).1
  | setField field value => exact hkeeps (H.component_setField e.component field value)
  | update configuration => exact hkeeps (H.configurator_updated e.configurator configuration)

end Layer

theorem mustering_ventures {out : Collaborators σ}
    (hout : Layered (e.Ventures roll) (Rolls roll) out) (hventures : e.Ventures roll out w w') :
    (mustering roll e callbacks).Allows w w' := by
  refine hout.acts_allowed ?_ w w' hventures
  rintro acts out hacts hrule w w' ⟨operation, u, hrun, hplatform, hroll⟩ hw
  obtain ⟨hu, hnoted, hstep⟩ := ensures_operation_inStep (hrule.mustered hacts) operation hw () u hrun
  have hlag : (roll u.surroundings).astray ≤ (roll w'.surroundings).astray := by
    rw [hroll]
    exact Nat.le_add_right _ _
  refine ⟨hu.of_platform hplatform, Nat.le_trans hnoted hlag, fun hsame => ?_⟩
  obtain ⟨hfirst, hsecond⟩ := Roll.unnoted hnoted hlag hsame
  have hzero : operation.lag e w u = 0 := by
    rw [hroll] at hsecond
    exact Nat.add_eq_left.mp hsecond
  -- Apart from the note nothing has happened behind the operation.
  have hends : InStep roll e callbacks u w' := by
    obtain ⟨hcomponent, -, -, -, -, hcaller⟩ := World.objects_of_platform hplatform
    exact Steady.inStep ⟨by rw [hcomponent], by rw [hcaller], by rw [hroll]⟩ hsecond
  exact ((hstep hzero).trans hends).stepped hsame

/-- A callback whose two states are the same is not called, as long as no operation that sets the
state begins or ends while the caller has not seen the present state: whoever calls operations, be
it methods, handlers, the registry or the host, whenever and to any depth. The bodies that are
called are, but for their order, those that the callbacks whose states differ run on changes from
one state to the other. -/
theorem callbacks_run_on_changes {out : Collaborators σ}
    (hout : Layered (e.Ventures roll) (Rolls roll) out)
    (hsole : (w.component e.component).handlers.filterMap Handler.caller? = [e.caller])
    (habreast : Abreast e w) (hturn : Turn (Idle roll) (e.Ventures roll out) w w')
    (hinStep : (roll w'.surroundings).astray = (roll w.surroundings).astray) :
    ∃ (numbers : List Nat) (changes : List Transition),
      (roll w'.surroundings).called = (roll w.surroundings).called ++ numbers ∧
      (∀ change ∈ changes, change.source ≠ change.target) ∧
      numbers.Perm (changes.flatMap
        (Callback.bodies ((w.caller e.caller).callbacks.filter Callback.isGenuine))) ∧
      Abreast e w' := by
  have hallows : (mustering roll e (w.caller e.caller).callbacks).Allows w w' :=
    .of_turn (fun _ _ => mustering_of_idle) (fun _ _ => mustering_ventures hout) hturn
  obtain ⟨hends, numbers, hcalled, changes, hchanges, hperm⟩ :=
    (Ran.of_allows ⟨hsole, rfl⟩ hallows).ran hinStep habreast
  refine ⟨numbers, changes, hcalled, hchanges, ?_, hends⟩
  rw [List.flatMap_congr fun change hmem => Callback.bodies_isGenuine _ (hchanges change hmem)]
  exact hperm

/-! ## A bell that a registry silences -/

/-- A component with a service and two callbacks: one for becoming valid, and one whose states
have names that mean nothing. -/
def Component.bell : Component :=
  .create
    (.build "Bell" [] ["Ringing"]
      [.leaf "Provides",
        ((Element.leaf "callback").withAttribute "final" "VALID").withAttribute "method" "ring",
        (((Element.leaf "callback").withAttribute "initial" "idle").withAttribute "final"
          "idle").withAttribute "method" "rest"])
    (.ofList [("ring", ⟨"ring", false, false, 0⟩), ("rest", ⟨"rest", false, false, 1⟩)])

/-- The bell on a platform of its own. -/
def World.bell (surroundings : σ) : World σ where
  platform :=
    { Platform.ofSettings .standard with components := (Store.empty.add Component.bell).2 }
  surroundings := surroundings

/-- The bell with its handlers and its service. -/
def Ensemble.bell : Ensemble := ⟨⟨0⟩, ⟨0⟩, ⟨0⟩, ⟨0⟩, [⟨0⟩], []⟩

/-- A registry with a roll. -/
structure Belfry where
  registry : Registry
  sheet : Roll

namespace Belfry

/-- A registry without records, and a roll without entries. -/
def silent : Belfry := ⟨.empty, [], 0⟩

/-- Enter a body that is called. -/
def enter (number : Nat) (belfry : Belfry) : Belfry :=
  { belfry with sheet := { belfry.sheet with called := belfry.sheet.called ++ [number] } }

/-- Note how much an operation was out of step. -/
def note (lag : Nat) (belfry : Belfry) : Belfry :=
  { belfry with sheet := { belfry.sheet with astray := belfry.sheet.astray + lag } }

/-- Run an operation on the bell, and note whether it was out of step. -/
def venture (out : Collaborators Belfry) (operation : Ensemble.Operation) : Run Belfry Unit := do
  let before ← get
  operation.run out .bell
  let behind ← get
  Run.changeSurroundings (note (operation.lag .bell before behind))

theorem ventures_venture {out : Collaborators Belfry} {operation : Ensemble.Operation}
    {w w' : World Belfry} (hrun : (venture out operation).run w = some ((), w')) :
    Ensemble.bell.Ventures sheet out w w' := by
  have hends : (venture out operation).Ensures w fun _ => Ensemble.bell.Ventures sheet out w := by
    simp only [venture, Run.ensures_bind, Run.ensures_get, Run.ensures_changeSurroundings]
    exact fun _ u hoperation => ⟨operation, u, hoperation, rfl, rfl⟩
  exact hends () w' hrun

/-- A registry in memory that reacts to a registration, and methods that are entered. -/
def collaborators (react : Run Belfry Unit) : Collaborators Belfry :=
  let calm := Collaborators.inMemory registry (fun after belfry => { belfry with registry := after })
    (fun _ belfry => belfry) fun number => do
      Run.changeSurroundings (enter number)
      return .returned
  { calm with
    register := fun specifications properties factory => do
      let answer ← calm.register specifications properties factory
      react
      return answer }

theorem rolls_collaborators {acts : World Belfry → World Belfry → Prop} {react : Run Belfry Unit}
    (hreact : ∀ w, react.Ensures w fun _ => Turn (Idle sheet) acts w) :
    Rolls sheet acts (collaborators react) := by
  have hdiscreet : Discreet sheet (Collaborators.inMemory registry
      (fun after belfry => { belfry with registry := after }) (fun _ belfry => belfry)
      fun _ => return .returned) :=
    discreet_inMemory (fun _ _ => rfl) fun _ _ => rfl
  have hidle {w w' : World Belfry} (h : Idle sheet w w') : Turn (Idle sheet) acts w w' :=
    .single (.inl h)
  exact
    { log := fun _ _ => rfl
      announce := fun _ _ => rfl
      register := fun specifications properties factory w => by
        simp only [collaborators, Run.ensures_bind, Run.ensures_pure]
        refine (hdiscreet.register specifications properties factory w).mono fun _ u hasked => ?_
        exact (hreact u).mono fun _ _ hturn => (hidle hasked).trans hturn
      unregister := fun handle w => (hdiscreet.unregister handle w).mono fun _ _ => hidle
      update := fun handle properties w =>
        (hdiscreet.update handle properties w).mono fun _ _ => hidle
      publish := fun _ _ _ _ => (Run.ensures_pure _).mpr .refl
      withdraw := fun _ _ => (Run.ensures_pure _).mpr .refl
      call := fun number _ w => by
        simp only [collaborators, Collaborators.inMemory, Run.ensures_bind,
          Run.ensures_changeSurroundings, Run.ensures_pure]
        exact ⟨w.changeSurroundings (enter number), rfl, rfl, .refl⟩
      notify := fun _ _ _ => (Run.ensures_pure _).mpr .refl
      ready := fun _ _ => (Run.ensures_pure _).mpr .refl }

/-- The registry only keeps records. -/
def calm : Collaborators Belfry := collaborators (return ())

/-- The registry makes the bell invalid as soon as its service is registered. -/
def silencing : Collaborators Belfry := collaborators (venture calm (.setState .invalid))

theorem layered_silencing : Layered (Ensemble.bell.Ventures sheet) (Rolls sheet) silencing := by
  have hcalm : Layered (Ensemble.bell.Ventures sheet) (Rolls sheet) calm :=
    .bottom (rolls_collaborators fun w => (Run.ensures_pure _).mpr .refl)
  refine hcalm.above (rolls_collaborators fun w => ?_)
  exact fun _ _ hrun => .single (.inr (ventures_venture hrun))

end Belfry

/-- The bell has its caller ahead of its provider, and is made valid. It is silenced in the middle
of that, but by then its caller has seen that it was valid. -/
theorem callbacks_run_on_changes_bell :
    ∃ w₁ w₂ : World Belfry,
      (Component.configure Belfry.silencing ⟨0⟩
        [.caller ⟨0⟩, .provider ⟨0⟩, .configurator ⟨0⟩] .empty).run (.bell .silent) =
          some ((), w₁) ∧
      (Belfry.venture Belfry.silencing (.setState .valid)).run w₁ = some ((), w₂) ∧
      (w₂.component ⟨0⟩).state = .invalid ∧ w₂.surroundings.sheet.astray = 0 ∧
      ∃ changes : List Transition, (∀ change ∈ changes, change.source ≠ change.target) ∧
        w₂.surroundings.sheet.called.Perm (changes.flatMap
          (Callback.bodies ((w₁.caller ⟨0⟩).callbacks.filter Callback.isGenuine))) := by
  have hends : ((Component.configure Belfry.silencing ⟨0⟩
      [.caller ⟨0⟩, .provider ⟨0⟩, .configurator ⟨0⟩] .empty).run (.bell .silent)).bind
        (fun first => ((Belfry.venture Belfry.silencing (.setState .valid)).run first.2).map
          fun second =>
            decide ((first.2.component ⟨0⟩).handlers.filterMap Handler.caller? = [⟨0⟩] ∧
              Abreast .bell first.2 ∧ first.2.surroundings.sheet.called = [] ∧
              first.2.surroundings.sheet.astray = 0 ∧ (second.2.component ⟨0⟩).state = .invalid ∧
              second.2.surroundings.sheet.astray = 0)) = some true := by
    decide +kernel
  obtain ⟨⟨⟨⟩, w₁⟩, hconfigured, hends⟩ := Option.bind_eq_some_iff.mp hends
  obtain ⟨⟨⟨⟩, w₂⟩, hset, hfacts⟩ := Option.map_eq_some_iff.mp hends
  obtain ⟨hsole, habreast, hsilent, hbegan, hinvalid, hended⟩ := of_decide_eq_true hfacts
  obtain ⟨numbers, changes, hcalled, hchanges, hperm, -⟩ :=
    callbacks_run_on_changes (e := .bell) Belfry.layered_silencing hsole habreast
      (.single (.inr (Belfry.ventures_venture hset))) (hended.trans hbegan.symm)
  rw [hsilent, List.nil_append] at hcalled
  exact ⟨w₁, w₂, hconfigured, hset, hinvalid, hended, changes, hchanges, hcalled ▸ hperm⟩

/-- The bell has its provider ahead of its caller, and is silenced while it is made valid, before
its caller is told. The callback whose states are the same is called. -/
theorem callback_run_without_change :
    ∃ w₁ w₂ : World Belfry,
      (Component.configure Belfry.silencing ⟨0⟩
        [.provider ⟨0⟩, .configurator ⟨0⟩, .caller ⟨0⟩] .empty).run (.bell .silent) =
          some ((), w₁) ∧
      (Component.setState Belfry.silencing ⟨0⟩ .valid).run w₁ = some ((), w₂) ∧
      ((w₁.caller ⟨0⟩).callbacks.filter fun callback =>
        callback.declared.initial = callback.declared.final).filterMap Callback.body? = [1] ∧
      w₂.surroundings.sheet.called = [1] := by
  have hends : ((Component.configure Belfry.silencing ⟨0⟩
      [.provider ⟨0⟩, .configurator ⟨0⟩, .caller ⟨0⟩] .empty).run (.bell .silent)).bind
        (fun first => ((Component.setState Belfry.silencing ⟨0⟩ .valid).run first.2).map
          fun second =>
            decide (((first.2.caller ⟨0⟩).callbacks.filter fun callback =>
                callback.declared.initial = callback.declared.final).filterMap Callback.body? =
                  [1] ∧
              second.2.surroundings.sheet.called = [1])) = some true := by
    decide +kernel
  obtain ⟨⟨⟨⟩, w₁⟩, hconfigured, hends⟩ := Option.bind_eq_some_iff.mp hends
  obtain ⟨⟨⟨⟩, w₂⟩, hset, hfacts⟩ := Option.map_eq_some_iff.mp hends
  exact ⟨w₁, w₂, hconfigured, hset, of_decide_eq_true hfacts⟩

end Componentry

import Componentry.Proofs.Ensemble.Staffing

/-!
# What a regime admits

A regime that bears slight steps and changes of services bears field writes and
configuration updates. If it also admits publications and tracked states, it admits all
that the handlers do, provided that it keeps the calls of methods.

A change of state is told to the handlers one by one, and each of them may change the
state again. A regime heeds such changes if steps that change the state leave it heeded.
Then a change of state is heeded however it ends: it is superseded by one that is heeded,
or it reaches the handler that sees to it.
-/

namespace Componentry

variable {σ α : Type}

/-- A regime for an ensemble that slight steps and log records stay in. -/
structure Regime.Bears (R : Regime σ) (e : Ensemble) (out : Collaborators σ) : Prop where
  stands : ∀ {w}, R.holds w → e.Stands w
  slight : ∀ {w w'}, Slight w w' → R.Allows w w'
  note : ∀ record, R.Keeps (out.note record)

/-- A regime for an ensemble that publications stay in. -/
structure Regime.Publishes (R : Regime σ) (e : Ensemble) (out : Collaborators σ) : Prop
    extends R.Bears e out where
  publication : ∀ publication, R.Keeps
    (Run.changeConfigurator e.configurator fun c => { c with publication := publication })
  published : ∀ className identity, R.Keeps (out.tell (.configurationPublished className identity))
  withdrawn : ∀ className identity, R.Keeps (out.tell (.configurationWithdrawn className identity))
  publish : ∀ identity properties target, R.Keeps (out.publish identity properties target)
  withdraw : ∀ handle, R.Keeps (out.withdraw handle)

/-- A regime for an ensemble that quiet steps, log records and the calls of the host stay
in. -/
structure Regime.Admits (R : Regime σ) (e : Ensemble) (out : Collaborators σ) : Prop
    extends R.Publishes e out where
  quiet : ∀ {w w'}, Quiet w w' → R.Allows w w'
  slight h := quiet h.quiet
  publication _ w _ := (Run.ensures_changeConfigurator _ _).mpr
    (quiet (.changeConfigurator w _ (fun _ => rfl) (fun _ => rfl) fun _ => rfl))

/-- A regime that demands no less and allows no less keeps as much. -/
theorem Regime.Keeps.weaken {R R' : Regime σ} {m : Run σ α} (hm : R.Keeps m)
    (hholds : ∀ w, R'.holds w → R.holds w)
    (hallows : ∀ w w', R.Allows w w' → R'.Allows w w') : R'.Keeps m := by
  intro w hw
  exact (hm w (hholds w hw)).mono fun _ w' => hallows w w'

/-- A regime that demands no less and allows no less bears publications as well. -/
theorem Regime.Publishes.weaken {R R' : Regime σ} {e : Ensemble} {out : Collaborators σ}
    (H : R.Publishes e out) (hholds : ∀ w, R'.holds w → R.holds w)
    (hallows : ∀ w w', R.Allows w w' → R'.Allows w w') : R'.Publishes e out where
  stands hw := H.stands (hholds _ hw)
  slight hslight := hallows _ _ (H.slight hslight)
  note record := (H.note record).weaken hholds hallows
  publication publication := (H.publication publication).weaken hholds hallows
  published className identity := (H.published className identity).weaken hholds hallows
  withdrawn className identity := (H.withdrawn className identity).weaken hholds hallows
  publish identity properties target := (H.publish identity properties target).weaken hholds hallows
  withdraw handle := (H.withdraw handle).weaken hholds hallows

/-- A regime that demands no less and allows no less admits as much. -/
theorem Regime.Admits.weaken {R R' : Regime σ} {e : Ensemble} {out : Collaborators σ}
    (H : R.Admits e out) (hholds : ∀ w, R'.holds w → R.holds w)
    (hallows : ∀ w w', R.Allows w w' → R'.Allows w w') : R'.Admits e out :=
  { H.toPublishes.weaken hholds hallows with quiet := fun hquiet => hallows _ _ (H.quiet hquiet) }

/-- A regime in which changes of the state of a component are heeded by one of its handlers:
steps leave heeded what was, and those that change the state leave it heeded. -/
structure Regime.Heeds (R : Regime σ) (e : Ensemble) (herald : Handler)
    (heeded : World σ → Prop) : Prop where
  kept : ∀ {w w'}, heeded w → R.leads w w' → heeded w'
  changed : ∀ {w w'}, R.leads w w' →
    heeded w' ∨ (w'.component e.component).state = (w.component e.component).state
  absent : ∀ {w}, R.holds w → herald ∉ (w.component e.component).handlers → heeded w
  admitted : ∀ {w} state, R.holds w →
    R.holds (w.changeComponent e.component fun c => { c with state := state })
  leads : ∀ {w w'} state,
    R.leads (w.changeComponent e.component fun c => { c with state := state }) w' →
    heeded w' → R.leads w w'

namespace Regime

namespace Bears

variable {R : Regime σ} {e : Ensemble} {out : Collaborators σ} (H : R.Bears e out)
include H

theorem tolerates : R.Tolerates e out where
  staffed hw := (H.stands hw).staffed
  slight := H.slight
  note := H.note

theorem component_bind {f : Component → Run σ α}
    (hf : ∀ c : Component, (∀ handler ∈ c.handlers, handler ∈ e.handlers) → R.Keeps (f c)) :
    R.Keeps (Run.component e.component >>= f) :=
  H.tolerates.component_bind hf

theorem provider_bind {f : Provider → Run σ α}
    (hf : R.Keeps (f ⟨some e.component, e.services⟩)) :
    R.Keeps (Run.provider e.provider >>= f) := by
  intro w hw
  rw [Run.ensures_bind, Run.ensures_provider, (H.stands hw).provider]
  exact hf w hw

theorem configurator_bind {f : Configurator → Run σ α}
    (hf : ∀ c : Configurator, c.component = some e.component → c.properties = e.properties →
      R.Keeps (f c)) :
    R.Keeps (Run.configurator e.configurator >>= f) := by
  intro w hw
  rw [Run.ensures_bind, Run.ensures_configurator]
  exact hf _ (H.stands hw).configurator (H.stands hw).properties w hw

section States

variable {herald : Handler} {heeded : World σ → Prop} (K : R.Heeds e herald heeded)
  (htold : ∀ state w, R.holds w → (w.component e.component).state = state →
    ∀ handler ∈ e.handlers, (handler.stateChanged out state).Ensures w fun _ w' =>
      R.Allows w w' ∧ (heeded w' ∨ handler ≠ herald))
include K htold

/-- A change of state that is told to handlers ends heeded, unless the herald is not among
those that are to be told. -/
theorem ensures_dispatch (state : Validity) {handlers : List Handler} {w : World σ}
    (hhandlers : ∀ handler ∈ handlers, handler ∈ e.handlers) (hw : R.holds w) :
    (Component.dispatch out e.component state handlers).Ensures w fun _ w' =>
      R.Allows w w' ∧ (heeded w' ∨ ((w.component e.component).state = state →
        herald ∉ handlers)) := by
  induction handlers generalizing w with
  | nil => exact (Run.ensures_pure _).mpr ⟨.refl w, .inr fun _ => List.not_mem_nil⟩
  | cons handler rest ih =>
      simp only [Component.dispatch, Run.ensures_bind, Run.ensures_component]
      split
      next hsuperseded =>
        -- Nobody is told of a state that the component does not have any more.
        refine (H.note _ w hw).mono ?_
        exact fun _ _ hallows => ⟨hallows, .inr fun hsame => absurd hsame hsuperseded⟩
      next hcurrent =>
        have hstate : (w.component e.component).state = state := Decidable.not_not.mp hcurrent
        rw [Run.ensures_bind]
        refine (htold state w hw hstate handler (hhandlers handler List.mem_cons_self)).mono ?_
        rintro _ u ⟨hfirst, htold⟩
        obtain ⟨hu, hleads⟩ := hfirst hw
        refine (ih (fun other hother => hhandlers other (List.mem_cons_of_mem handler hother))
          hu).mono ?_
        rintro _ w' ⟨hsecond, hlast⟩
        refine ⟨hfirst.trans hsecond, ?_⟩
        obtain ⟨-, hleads'⟩ := hsecond hu
        -- The herald was told, or the handler has changed the state, or neither.
        rcases htold with hheeded | hother
        · exact .inl (K.kept hheeded hleads')
        · rcases K.changed hleads with hheeded | hsame
          · exact .inl (K.kept hheeded hleads')
          · refine hlast.imp_right fun hnot hcurrent => ?_
            rw [List.mem_cons, not_or]
            exact ⟨Ne.symm hother, hnot (hsame.trans hcurrent)⟩

variable
  (htell : ∀ className transition, R.Keeps (out.tell (.stateChanged className transition)))
include htell

/-- A state that is set is heeded, unless it is the state already. -/
theorem ensures_setState (state : Validity) {w : World σ} (hw : R.holds w) :
    (Component.setState out e.component state).Ensures w fun _ w' =>
      R.Allows w w' ∧ (heeded w' ∨ (w.component e.component).state = state) := by
  have hheld := H.slight (.hold w e.component)
  have hsame : ((w.hold e.component).component e.component).state =
      (w.component e.component).state := (Slight.hold w e.component).state _
  -- The steps are followed while the component is held; letting it go changes nothing.
  rw [Component.setState, Run.ensures_holding]
  suffices ∀ {v}, R.holds v → Run.Ensures _ v fun _ w' =>
      R.Allows v w' ∧ (heeded w' ∨ (v.component e.component).state = state) by
    refine (this (hheld hw).1).mono ?_
    rintro _ v ⟨hallows, hheeded⟩
    have hreleased := H.slight (.release v e.component)
    have hv := ((hheld.trans hallows) hw).1
    exact ⟨hheld.trans (hallows.trans hreleased),
      hheeded.imp (fun h => K.kept h (hreleased hv).2) hsame.symm.trans⟩
  intro v hv
  simp only [Run.ensures_bind, Run.ensures_component]
  split
  next hstate => exact (Run.ensures_pure _).mpr ⟨.refl v, .inr hstate⟩
  next =>
    simp only [Run.ensures_bind, Run.ensures_changeComponent]
    have hchanged := K.admitted state hv
    refine (H.note _ _ hchanged).mono ?_
    intro _ u hnoted
    obtain ⟨hu, hleads⟩ := hnoted hchanged
    refine (htell _ _ u hu).mono ?_
    intro _ x htold'
    obtain ⟨hx, hleads'⟩ := htold' hu
    rw [Run.ensures_component]
    refine (H.ensures_dispatch K htold state (H.stands hx).handlers hx).mono ?_
    rintro _ w' ⟨hallows, hdispatched⟩
    obtain ⟨hw', hleads''⟩ := hallows hx
    have hheeded : heeded w' := by
      -- The state is the new one when the handlers are told, unless that was heeded before.
      rcases K.changed (R.trans hleads hleads') with hheeded | hsame'
      · exact K.kept hheeded hleads''
      · rcases hdispatched with hheeded | hnot
        · exact hheeded
        · refine K.kept (K.absent hx (hnot ?_)) hleads''
          rw [hsame']
          simp
    exact ⟨fun _ => ⟨hw', K.leads state (R.trans (R.trans hleads hleads') hleads'') hheeded⟩,
      .inl hheeded⟩

theorem component_setState (state : Validity) :
    R.Keeps (Component.setState out e.component state) :=
  fun _ hw => (H.ensures_setState K htold htell state hw).mono fun _ _ h => h.1

/-- The handlers of an ensemble are always ready, so a validity that is checked is set to
valid. -/
theorem ensures_checkValidity {w : World σ} (hw : R.holds w) :
    (Component.checkValidity out e.component).Ensures w fun _ w' =>
      R.Allows w w' ∧ (heeded w' ∨ (w.component e.component).state = .valid) := by
  have hheld := H.slight (.hold w e.component)
  obtain ⟨hu, -⟩ := hheld hw
  rw [Component.checkValidity, Run.ensures_holding, Run.ensures_bind, Run.ensures_component,
    Component.allReady_eq out (H.stands hu).handlers, pure_bind]
  refine (H.ensures_setState K htold htell (.ofBool true) hu).mono ?_
  rintro _ v ⟨hallows, hheeded⟩
  have hreleased := H.slight (.release v e.component)
  have hv := ((hheld.trans hallows) hw).1
  exact ⟨hheld.trans (hallows.trans hreleased), hheeded.imp (fun h => K.kept h (hreleased hv).2)
    fun hvalid => ((Slight.hold w e.component).state _).symm.trans hvalid⟩

theorem component_checkValidity : R.Keeps (Component.checkValidity out e.component) :=
  fun _ hw => (H.ensures_checkValidity K htold htell hw).mono fun _ _ h => h.1

end States

end Bears

namespace Publishes

variable {R : Regime σ} {e : Ensemble} {out : Collaborators σ} (H : R.Publishes e out)
include H

theorem configurator_publish : R.Keeps (Configurator.publish out e.configurator) :=
  H.tolerates.configurator_publish H.publication H.withdraw H.publish H.published

theorem configurator_withdraw : R.Keeps (Configurator.withdraw out e.configurator) :=
  H.tolerates.configurator_withdraw H.publication H.withdraw H.withdrawn

theorem configurator_stateChanged (state : Validity) :
    R.Keeps (Configurator.stateChanged out e.configurator state) := by
  cases state with
  | valid =>
      refine (keeps_configurator _).bind fun c => ?_
      split
      · exact H.configurator_publish
      · exact keeps_pure ()
  | invalid => exact H.configurator_withdraw

theorem component_start {herald : Handler} {heeded : World σ → Prop}
    (K : R.Heeds e herald heeded)
    (htold : ∀ state w, R.holds w → (w.component e.component).state = state →
      ∀ handler ∈ e.handlers, (handler.stateChanged out state).Ensures w fun _ w' =>
        R.Allows w w' ∧ (heeded w' ∨ handler ≠ herald))
    (htell : ∀ className transition, R.Keeps (out.tell (.stateChanged className transition)))
    (hstart : R.Keeps (Provider.start out e.provider)) :
    R.Keeps (Component.start out e.component) := by
  refine H.tolerates.holding e.component (H.component_bind fun c hc => ?_)
  refine Keeps.bind ?_ fun _ => (H.note _).bind fun _ => H.component_checkValidity K htold htell
  exact forM_handlers hc hstart H.configurator_publish (keeps_pure ())

end Publishes

namespace Admits

variable {R : Regime σ} {e : Ensemble} {out : Collaborators σ} (H : R.Admits e out)
include H

theorem tracked (tracked : Validity) :
    R.Keeps (Run.changeCaller e.caller fun c => { c with tracked := tracked }) := by
  intro w _
  rw [Run.ensures_changeCaller]
  exact H.quiet (.changeCaller w _ fun _ => rfl)

/-- A handler that is told of the state that its component has. Where the provider heeds
it, it is heeded. -/
theorem ensures_stateChanged {heeded : World σ → Prop}
    (hprovider : ∀ state w, R.holds w → (w.component e.component).state = state →
      (Provider.stateChanged out e.provider state).Ensures w fun _ w' => R.Allows w w' ∧ heeded w')
    (hcall : ∀ number component, R.Keeps (out.call number component)) (state : Validity)
    (w : World σ) (hw : R.holds w) (hstate : (w.component e.component).state = state)
    (handler : Handler) (hhandler : handler ∈ e.handlers) :
    (handler.stateChanged out state).Ensures w fun _ w' =>
      R.Allows w w' ∧ (heeded w' ∨ handler ≠ .provider e.provider) := by
  rcases Ensemble.mem_handlers.mp hhandler with rfl | rfl | rfl
  · exact (hprovider state w hw hstate).mono fun _ _ h => ⟨h.1, .inl h.2⟩
  · refine (H.configurator_stateChanged state w hw).mono ?_
    exact fun _ _ hallows => ⟨hallows, .inr (by simp)⟩
  · refine (H.tolerates.caller_stateChanged H.tracked hcall state w hw).mono ?_
    exact fun _ _ hallows => ⟨hallows, .inr (by simp)⟩

end Admits

end Regime

end Componentry

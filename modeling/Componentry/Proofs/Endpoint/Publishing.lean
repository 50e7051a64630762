import Componentry.Proofs.Ensemble.Assembly
import Componentry.Proofs.Service.Frame

/-!
# Endpoints follow the state

Over a host in memory a component that is declared configurable has an endpoint exactly
while it is valid, also when methods start, stop or flip the component in the middle of a
change of state.

A start publishes the endpoint ahead of the check of validity, whether or not there is one
already. In between the endpoint does not follow the state, but no method runs there. All
else that publishes or withdraws is told of a state that the component has, so that
afterwards the endpoint follows it.
-/

namespace Componentry

variable {σ τ α : Type}

/-! ## Hosts in memory -/

namespace Host

/-- Ask for an endpoint to be published. -/
def askPublish (identity : String) (properties : Properties) (target : τ) (host : Host τ) :
    Except Failure (Publication × Host τ) :=
  .ok (host.publish identity properties target)

/-- Ask for an endpoint to be withdrawn. -/
def askWithdraw (handle : Publication) (host : Host τ) : Except Failure (Unit × Host τ) :=
  (host.withdraw handle).map fun after => ((), after)

/-- The endpoints have handles of their own, and none that is still to be given. -/
structure Orderly (host : Host τ) : Prop where
  numbered : ∀ endpoint ∈ host.endpoints, endpoint.handle.number ≤ host.published
  distinct : (host.endpoints.map Endpoint.handle).Nodup

variable {host after : Host τ}

theorem orderly_empty : (empty : Host τ).Orderly := ⟨by simp [empty], by simp [empty]⟩

theorem Orderly.publish (horderly : host.Orderly) (identity : String) (properties : Properties)
    (target : τ) : (host.publish identity properties target).2.Orderly := by
  constructor
  · intro endpoint hmem
    rcases List.mem_append.mp hmem with hold | hnew
    · exact Nat.le_succ_of_le (horderly.numbered endpoint hold)
    · rw [List.mem_singleton.mp hnew]
      exact Nat.le_refl _
  · simp only [Host.publish, List.map_append, List.map_cons, List.map_nil]
    rw [← List.concat_eq_append, List.nodup_concat]
    refine ⟨?_, horderly.distinct⟩
    intro hmem
    obtain ⟨endpoint, hendpoint, hhandle⟩ := List.mem_map.mp hmem
    have hle := horderly.numbered endpoint hendpoint
    rw [hhandle] at hle
    exact absurd hle (by simp)

theorem Orderly.withdraw {handle : Publication} (horderly : host.Orderly)
    (hwithdraw : host.withdraw handle = .ok after) : after.Orderly := by
  unfold Host.withdraw at hwithdraw
  split at hwithdraw
  · cases hwithdraw
    constructor
    · exact fun endpoint hmem => horderly.numbered endpoint (List.mem_filter.mp hmem).1
    · exact horderly.distinct.sublist (List.filter_sublist.map _)
  · cases hwithdraw

/-- Beside the endpoints of others the host holds one more, or none. -/
structure Shows (host : Host τ) (others : List (Endpoint τ)) (own : Option (Endpoint τ)) :
    Prop where
  orderly : host.Orderly
  endpoints : host.endpoints = others ++ own.toList

variable {others : List (Endpoint τ)}

theorem Shows.publish (hshows : host.Shows others none) (identity : String)
    (properties : Properties) (target : τ) :
    (host.publish identity properties target).2.Shows others
      (some ⟨(host.publish identity properties target).1, identity, properties, target⟩) where
  orderly := hshows.orderly.publish identity properties target
  endpoints := by simp [Host.publish, hshows.endpoints]

/-- An endpoint that is there can be withdrawn, and the others stay. -/
theorem Shows.withdraw {own : Endpoint τ} (hshows : host.Shows others (some own)) :
    ∃ after, host.withdraw own.handle = .ok after ∧ after.Shows others none := by
  obtain ⟨horderly, hendpoints⟩ := hshows
  have hothers : ∀ endpoint ∈ others, endpoint.handle ≠ own.handle := by
    intro endpoint hmem hsame
    have hdistinct := horderly.distinct
    rw [hendpoints, List.map_append, List.nodup_append] at hdistinct
    exact hdistinct.2.2 _ (List.mem_map_of_mem hmem) own.handle (by simp) hsame
  have hwithdraw : host.withdraw own.handle = .ok { host with endpoints := others } := by
    have hkept : others.filter (fun endpoint => endpoint.handle != own.handle) = others :=
      List.filter_eq_self.mpr fun endpoint hmem => bne_iff_ne.mpr (hothers endpoint hmem)
    simp [Host.withdraw, hendpoints, List.filter_append, hkept]
  exact ⟨_, hwithdraw, horderly.withdraw hwithdraw, by simp⟩

/-- The endpoints for a target. -/
def endpointsFor [DecidableEq τ] (host : Host τ) (target : τ) : List (Endpoint τ) :=
  host.endpoints.filter fun endpoint => endpoint.target = target

/-- Where others have no endpoint for a target, only the one more is for it. -/
theorem Shows.endpointsFor_eq [DecidableEq τ] {own : Option (Endpoint τ)} {target : τ}
    (hshows : host.Shows others own) (hothers : ∀ endpoint ∈ others, endpoint.target ≠ target)
    (hown : ∀ endpoint ∈ own, endpoint.target = target) :
    host.endpointsFor target = own.toList := by
  have hnone : others.filter (fun endpoint => endpoint.target = target) = [] := by
    rw [List.filter_eq_nil_iff]
    exact fun endpoint hmem hsame => hothers endpoint hmem (of_decide_eq_true hsame)
  rw [endpointsFor, hshows.endpoints, List.filter_append, hnone, List.nil_append]
  cases own with
  | none => rfl
  | some endpoint => simp [hown endpoint rfl]

/-- Where others have no endpoint under an identity, a push to it reaches only the target of
the one more. -/
theorem Shows.targets_eq {own : Option (Endpoint τ)} {identity : String}
    (hshows : host.Shows others own)
    (hothers : ∀ endpoint ∈ others, endpoint.identity ≠ identity)
    (hown : ∀ endpoint ∈ own, endpoint.identity = identity) :
    host.targets identity = (own.map Endpoint.target).toList := by
  have hnone : others.filter (fun endpoint => endpoint.identity == identity) = [] := by
    rw [List.filter_eq_nil_iff]
    exact fun endpoint hmem hsame => hothers endpoint hmem (eq_of_beq hsame)
  rw [targets, endpointsOf, hshows.endpoints, List.filter_append, hnone, List.nil_append]
  cases own with
  | none => rfl
  | some endpoint => simp [hown endpoint rfl]

end Host

/-- Collaborators whose host is the one that a view shows, and that take turns only while a
method is called. -/
structure Hosting (host : σ → Host Target) (callbacks : World σ → World σ → Prop)
    (out : Collaborators σ) : Prop extends Discreet host out where
  publish : ∀ identity properties target w,
    (out.publish identity properties target).Ensures w fun answer w' =>
      w'.platform = w.platform ∧
        answer = .ok ((host w.surroundings).publish identity properties target).1 ∧
        host w'.surroundings = ((host w.surroundings).publish identity properties target).2
  withdraw : ∀ handle w, (out.withdraw handle).Ensures w fun answer w' =>
    w'.platform = w.platform ∧
      match (host w.surroundings).withdraw handle with
      | .ok after => answer = .ok () ∧ host w'.surroundings = after
      | .error failure => answer = .error failure ∧ host w'.surroundings = host w.surroundings
  call : ∀ number component w,
    (out.call number component).Ensures w fun _ => Turn (Idle host) callbacks w

/-! ## The endpoint of an ensemble -/

/-- A configurator that may publish has recorded a publication, and the host holds one
endpoint of it, or none. The two may differ while the host is being called. -/
structure Posted (host : σ → Host Target) (others : List (Endpoint Target)) (identity : String)
    (e : Ensemble) (own : Option (Endpoint Target)) (publication : Option Publication)
    (state : Validity) (w : World σ) : Prop where
  stands : e.Stands w
  registered : .configurator e.configurator ∈ (w.component e.component).handlers
  configurable : (w.configurator e.configurator).configurable = true
  named : (w.configurator e.configurator).identity = identity
  recorded : (w.configurator e.configurator).publication = publication
  stays : (w.component e.component).state = state
  shows : (host w.surroundings).Shows others own
  addressed : ∀ endpoint ∈ own,
    endpoint.identity = identity ∧ endpoint.target = .configurator e.configurator

/-- The regime of steps that neither publish nor change the state. -/
def resting (host : σ → Host Target) (others : List (Endpoint Target)) (identity : String)
    (e : Ensemble) (own : Option (Endpoint Target)) (publication : Option Publication)
    (state : Validity) : Regime σ where
  holds := Posted host others identity e own publication state
  leads _ _ := True
  refl _ := trivial
  trans _ _ := trivial

/-- There is a publication exactly if the component is valid. -/
def Shown (e : Ensemble) (w : World σ) : Prop :=
  (w.configurator e.configurator).publication.isSome = true ↔
    (w.component e.component).state = .valid

/-- The publication follows the state, or neither of them has changed. -/
def Displays (e : Ensemble) (w w' : World σ) : Prop :=
  Shown e w' ∨
    (w'.component e.component).state = (w.component e.component).state ∧
      (w'.configurator e.configurator).publication = (w.configurator e.configurator).publication

variable {host : σ → Host Target} {others : List (Endpoint Target)} {identity : String}
  {e : Ensemble} {own : Option (Endpoint Target)} {publication : Option Publication}
  {state : Validity} {w w' : World σ}

theorem Shown.of_displays (hshown : Shown e w) (hdisplays : Displays e w w') : Shown e w' := by
  rcases hdisplays with hshown' | ⟨hstate, hpublication⟩
  · exact hshown'
  · rw [Shown, hstate, hpublication]
    exact hshown

/-- The regime of operations on an ensemble. -/
def posting (host : σ → Host Target) (others : List (Endpoint Target)) (identity : String)
    (e : Ensemble) : Regime σ where
  holds w := ∃ own state, Posted host others identity e own (own.map Endpoint.handle) state w
  leads := Displays e
  refl _ := .inr ⟨rfl, rfl⟩
  trans := by
    rintro u v w huv (hshown | ⟨hstate, hpublication⟩)
    · exact .inl hshown
    · rcases huv with hshown | ⟨hstate', hpublication'⟩
      · exact .inl (hshown.of_displays (.inr ⟨hstate, hpublication⟩))
      · exact .inr ⟨hstate.trans hstate', hpublication.trans hpublication'⟩

namespace Posted

/-- Nothing has changed that an endpoint is about. -/
theorem of_unchanged (hw : Posted host others identity e own publication state w)
    (hstands : e.Stands w')
    (hhandlers : (w'.component e.component).handlers = (w.component e.component).handlers)
    (hstate : (w'.component e.component).state = (w.component e.component).state)
    (hconfigurable : (w'.configurator e.configurator).configurable =
      (w.configurator e.configurator).configurable)
    (hidentity : (w'.configurator e.configurator).identity =
      (w.configurator e.configurator).identity)
    (hpublication : (w'.configurator e.configurator).publication =
      (w.configurator e.configurator).publication)
    (hhost : host w'.surroundings = host w.surroundings) :
    Posted host others identity e own publication state w' where
  stands := hstands
  registered := hhandlers ▸ hw.registered
  configurable := hconfigurable.trans hw.configurable
  named := hidentity.trans hw.named
  recorded := hpublication.trans hw.recorded
  stays := hstate.trans hw.stays
  shows := hhost ▸ hw.shows
  addressed := hw.addressed

/-- The host has been called while everything on the platform stayed. -/
theorem of_platform {own' : Option (Endpoint Target)}
    (hw : Posted host others identity e own publication state w)
    (hplatform : w'.platform = w.platform) (hshows : (host w'.surroundings).Shows others own')
    (haddressed : ∀ endpoint ∈ own',
      endpoint.identity = identity ∧ endpoint.target = .configurator e.configurator) :
    Posted host others identity e own' publication state w' := by
  obtain ⟨hcomponent, -, -, -, hconfigurator, -⟩ := World.objects_of_platform hplatform
  obtain ⟨hstands, hregistered, hconfigurable, hnamed, hrecorded, hstays, -, -⟩ := hw
  constructor
  · exact hstands.of_platform hplatform
  · exact hcomponent ▸ hregistered
  · exact hconfigurator ▸ hconfigurable
  · exact hconfigurator ▸ hnamed
  · exact hconfigurator ▸ hrecorded
  · exact hcomponent ▸ hstays
  · exact hshows
  · exact haddressed

/-- Another publication is recorded. -/
theorem record (hw : Posted host others identity e own publication state w)
    (publication' : Option Publication) :
    Posted host others identity e own publication' state
      (w.changeConfigurator e.configurator fun c => { c with publication := publication' }) where
  stands := hw.stands.changeConfigurator (fun _ => rfl) fun _ => rfl
  registered := hw.registered
  configurable := by simpa using hw.configurable
  named := by simpa using hw.named
  recorded := by simp
  stays := hw.stays
  shows := hw.shows
  addressed := hw.addressed

/-- Another state is recorded. -/
theorem changeState (hw : Posted host others identity e own publication state w)
    (state' : Validity) :
    Posted host others identity e own publication state'
      (w.changeComponent e.component fun c => { c with state := state' }) where
  stands := hw.stands.changeComponent (fun _ => rfl) fun _ => rfl
  registered := by simpa [Component.handlers] using hw.registered
  configurable := hw.configurable
  named := hw.named
  recorded := hw.recorded
  stays := by simp
  shows := hw.shows
  addressed := hw.addressed

end Posted

/-- The ensemble has come to rest in a state, with an endpoint as is wanted. -/
def Rests (host : σ → Host Target) (others : List (Endpoint Target)) (identity : String)
    (e : Ensemble) (state : Validity) (wanted : Option (Endpoint Target) → Prop) (w : World σ) :
    Prop :=
  ∃ own, Posted host others identity e own (own.map Endpoint.handle) state w ∧ wanted own

theorem resting_of_slight (h : Slight w w') :
    (resting host others identity e own publication state).Allows w w' := by
  intro hw
  refine ⟨hw.of_unchanged (hw.stands.of_quiet h.quiet) ?_ (h.state _) ?_ ?_ ?_ ?_, trivial⟩
  · exact congrArg (List.map Attachment.handler) (h.attachments e.component)
  all_goals simp only [h.configurator, h.surroundings]

theorem resting_of_aside (h : Aside host w w') :
    (resting host others identity e own publication state).Allows w w' := by
  intro hw
  refine ⟨hw.of_unchanged (hw.stands.of_aside h) ?_ ?_ ?_ ?_ ?_ h.surroundings, trivial⟩ <;>
    simp only [h.component, h.configurator]

/-- What neither publishes nor changes the state in whatever situation is one of the steps of
operations. -/
theorem posting_of_resting
    (h : ∀ own state,
      (resting host others identity e own (own.map Endpoint.handle) state).Allows w w') :
    (posting host others identity e).Allows w w' := by
  rintro ⟨own, state, hw⟩
  obtain ⟨hw', -⟩ := h own state hw
  exact ⟨⟨own, state, hw'⟩,
    .inr ⟨hw'.stays.trans hw.stays.symm, hw'.recorded.trans hw.recorded.symm⟩⟩

theorem posting_keeps_of_resting {m : Run σ α}
    (hm : ∀ own state,
      (resting host others identity e own (own.map Endpoint.handle) state).Keeps m) :
    (posting host others identity e).Keeps m := by
  rintro w ⟨own, state, hw⟩ a w' hrun
  apply posting_of_resting
  intro own' state' hw₀
  exact hm own' state' w hw₀ a w' hrun hw₀

section Layer

variable {callbacks : World σ → World σ → Prop} {out : Collaborators σ}
  (hout : Hosting host callbacks out)
include hout

theorem bears_resting :
    (resting host others identity e own publication state).Bears e out where
  stands hw := hw.stands
  slight := resting_of_slight
  note := Regime.keeps_note_aside hout.toDiscreet resting_of_aside

theorem bears_posting : (posting host others identity e).Bears e out where
  stands := fun ⟨_, _, hw⟩ => hw.stands
  slight h := posting_of_resting fun _ _ => resting_of_slight h
  note record := posting_keeps_of_resting fun _ _ => (bears_resting hout).note record

/-! ## What publishes and withdraws -/

theorem ensures_withdraw_own {endpoint : Endpoint Target}
    (hw : Posted host others identity e (some endpoint) publication state w) :
    (out.withdraw endpoint.handle).Ensures w fun answer w' =>
      answer = .ok () ∧ Posted host others identity e none publication state w' := by
  obtain ⟨after, hafter, hshows⟩ := hw.shows.withdraw
  refine (hout.withdraw endpoint.handle w).mono ?_
  rintro answer w' ⟨hplatform, hanswer⟩
  rw [hafter] at hanswer
  obtain ⟨hok, hhost⟩ := hanswer
  exact ⟨hok, hw.of_platform hplatform (hhost ▸ hshows) (by simp)⟩

theorem ensures_publish_own (properties : Properties)
    (hw : Posted host others identity e none publication state w) :
    (out.publish identity properties (.configurator e.configurator)).Ensures w fun answer w' =>
      ∃ endpoint : Endpoint Target, answer = .ok endpoint.handle ∧
        Posted host others identity e (some endpoint) publication state w' := by
  refine (hout.publish identity properties _ w).mono ?_
  rintro answer w' ⟨hplatform, hanswer, hhost⟩
  have hshows := hw.shows.publish identity properties (.configurator e.configurator)
  rw [← hhost] at hshows
  exact ⟨_, hanswer, hw.of_platform hplatform hshows (by rintro _ ⟨⟩; exact ⟨rfl, rfl⟩)⟩

/-- The endpoint is withdrawn if there is one. -/
theorem ensures_configurator_withdraw
    (hw : Posted host others identity e own (own.map Endpoint.handle) state w) :
    (Configurator.withdraw out e.configurator).Ensures w fun _ w' =>
      Posted host others identity e none none state w' := by
  have H : (resting host others identity e none none state).Bears e out := bears_resting hout
  simp only [Configurator.withdraw, Run.ensures_bind, Run.ensures_configurator, hw.recorded]
  cases own with
  | none => exact (Run.ensures_pure _).mpr hw
  | some endpoint =>
      simp only [Option.map_some, Run.ensures_bind, Run.ensures_changeConfigurator,
        hw.stands.configurator]
      have hcleared := hw.record none
      have hheld := (resting_of_slight (.hold _ e.component) hcleared).1
      rw [Run.ensures_whileAlive_owned hcleared.stands.owned]
      simp only [Run.ensures_bind, Run.ensures_component]
      refine (ensures_withdraw_own hout hheld).mono ?_
      rintro _ u ⟨rfl, hu⟩
      rw [Run.ensures_bind]
      refine (H.note _ u hu).mono ?_
      intro _ v hnoted
      obtain ⟨hv, -⟩ := hnoted hu
      rw [Run.ensures_bind, Run.ensures_configurator]
      refine (Regime.keeps_tell_aside hout.toDiscreet resting_of_aside _ v hv).mono ?_
      intro _ x htold
      exact (resting_of_slight (.release x e.component) (htold hv).1).1

/-- The endpoint is published anew: an older one is withdrawn first. -/
theorem ensures_configurator_publish
    (hw : Posted host others identity e own (own.map Endpoint.handle) state w) :
    (Configurator.publish out e.configurator).Ensures w fun _ w' =>
      ∃ endpoint,
        Posted host others identity e (some endpoint) (some endpoint.handle) state w' := by
  simp -zeta only [Configurator.publish, Run.ensures_bind, Run.ensures_configurator,
    hw.configurable, hw.recorded, hw.named, hw.stands.configurator, Bool.not_true,
    Bool.false_eq_true, if_false, Run.ensures_changeConfigurator]
  have hcleared := hw.record none
  have hheld := (resting_of_slight (.hold _ e.component) hcleared).1
  rw [Run.ensures_whileAlive_owned hcleared.stands.owned]
  simp -zeta only [Run.ensures_bind, Run.ensures_component]
  extract_lets className anew
  -- What is published when an older endpoint, if there was one, has been withdrawn.
  have hanew : ∀ {u} p, Posted host others identity e none none state u →
      (anew p).Ensures u fun _ u' => ∃ endpoint, Posted host others identity e (some endpoint)
        (some endpoint.handle) state (u'.release e.component) := by
    intro u p hu
    simp only [anew, Run.ensures_bind, Run.ensures_platform]
    refine (ensures_publish_own hout _ hu).mono ?_
    rintro _ v ⟨endpoint, rfl, hv⟩
    have H : (resting host others identity e (some endpoint) (some endpoint.handle) state).Bears
        e out := bears_resting hout
    simp only [Run.ensures_bind, Run.ensures_changeConfigurator]
    have hrecorded := hv.record (some endpoint.handle)
    refine (H.note _ _ hrecorded).mono ?_
    intro _ x hnoted
    obtain ⟨hx, -⟩ := hnoted hrecorded
    refine (Regime.keeps_tell_aside hout.toDiscreet resting_of_aside _ x hx).mono ?_
    intro _ y htold
    exact ⟨endpoint, (resting_of_slight (.release y e.component) (htold hx).1).1⟩
  cases own with
  | none => exact hanew () hheld
  | some previous =>
      simp -zeta only [Option.map_some, Run.ensures_bind]
      refine (ensures_withdraw_own hout hheld).mono ?_
      rintro _ u ⟨rfl, hu⟩
      exact hanew () hu

/-- A configurator that is told of the state that its component has makes the publication
follow it. -/
theorem ensures_configurator_told (hw : (posting host others identity e).holds w)
    (hstate : (w.component e.component).state = state) :
    (Configurator.stateChanged out e.configurator state).Ensures w fun _ w' =>
      (posting host others identity e).Allows w w' ∧ Shown e w' := by
  obtain ⟨own, _, hw⟩ := hw
  cases hstate.symm.trans hw.stays
  cases state with
  | valid =>
      simp only [Configurator.stateChanged, Run.ensures_bind, Run.ensures_configurator, hw.recorded]
      split
      next =>
        refine (ensures_configurator_publish hout hw).mono ?_
        rintro _ w' ⟨endpoint, hw'⟩
        have hshown : Shown e w' := by simp [Shown, hw'.recorded, hw'.stays]
        exact ⟨fun _ => ⟨⟨some endpoint, .valid, hw'⟩, .inl hshown⟩, hshown⟩
      next hsome =>
        rw [Run.ensures_pure]
        refine ⟨.refl w, ?_⟩
        rw [Shown, hw.recorded, hw.stays]
        cases own with
        | none => exact absurd rfl hsome
        | some endpoint => simp
  | invalid =>
      refine (ensures_configurator_withdraw hout hw).mono ?_
      intro _ w' hw'
      have hshown : Shown e w' := by simp [Shown, hw'.recorded, hw'.stays]
      exact ⟨fun _ => ⟨⟨none, .invalid, hw'⟩, .inl hshown⟩, hshown⟩

/-! ## Operations -/

omit hout in
theorem resting_tracked (tracked : Validity) :
    (resting host others identity e own publication state).Keeps
      (Run.changeCaller e.caller fun c => { c with tracked := tracked }) := by
  intro w _
  rw [Run.ensures_changeCaller]
  have hquiet : Quiet w (w.changeCaller e.caller fun c => { c with tracked := tracked }) :=
    .changeCaller w _ fun _ => rfl
  exact fun hw => ⟨hw.of_unchanged (hw.stands.of_quiet hquiet) rfl rfl rfl rfl rfl rfl, trivial⟩

omit hout in
/-- What the configurator settles in a turn over all handlers is settled in the end, if the
other handlers neither publish nor change the state. -/
theorem ensures_handlers_rest {f : Handler → Run σ Unit} {settled : Option (Endpoint Target) → Prop}
    (hprovider : ∀ own, (resting host others identity e own (own.map Endpoint.handle) state).Keeps
      (f (.provider e.provider)))
    (hcaller : ∀ own, (resting host others identity e own (own.map Endpoint.handle) state).Keeps
      (f (.caller e.caller)))
    (hconfigurator : ∀ own u,
      Posted host others identity e own (own.map Endpoint.handle) state u →
      (f (.configurator e.configurator)).Ensures u fun _ =>
        Rests host others identity e state settled)
    (hw : Posted host others identity e own (own.map Endpoint.handle) state w) :
    ((w.component e.component).handlers.forM f).Ensures w fun _ =>
      Rests host others identity e state settled := by
  have hothers : ∀ handler ∈ (w.component e.component).handlers,
      handler ≠ .configurator e.configurator → ∀ own,
        (resting host others identity e own (own.map Endpoint.handle) state).Keeps (f handler) := by
    intro handler hmem hother
    rcases Ensemble.mem_handlers.mp (hw.stands.handlers handler hmem) with rfl | rfl | rfl
    · exact hprovider
    · exact absurd rfl hother
    · exact hcaller
  have hsettled : ((w.component e.component).handlers.forM f).Ensures w fun _ w' =>
      Rests host others identity e state (fun _ => True) w' ∧
        (.configurator e.configurator ∈ (w.component e.component).handlers →
          Rests host others identity e state settled w') := by
    apply Run.ensures_forM_settled
    · rintro - u ⟨own', hu, -⟩
      refine (hconfigurator own' u hu).mono ?_
      rintro _ u' ⟨own, hu', hsettled⟩
      exact ⟨⟨own, hu', trivial⟩, ⟨own, hu', hsettled⟩⟩
    · intro handler hmem hother u hu
      have hkept : ∀ settled, Rests host others identity e state settled u →
          (f handler).Ensures u fun _ => Rests host others identity e state settled := by
        rintro settled ⟨own, hu, hsettled⟩
        refine (hothers handler hmem hother own u hu).mono ?_
        exact fun _ _ hallows => ⟨own, (hallows hu).1, hsettled⟩
      intro _ u' hrun
      exact ⟨hkept _ hu _ u' hrun, fun hsettled => hkept settled hsettled _ u' hrun⟩
    · exact ⟨own, hw, trivial⟩
  exact hsettled.mono fun _ _ h => h.2 hw.registered

/-- A stop withdraws the endpoint, and ends invalid. -/
theorem posting_stop : (posting host others identity e).Keeps (Component.stop out e.component) := by
  have H : (posting host others identity e).Bears e out := bears_posting hout
  apply H.tolerates.holding
  rintro w ⟨own, state, hw⟩
  simp only [Run.ensures_bind, Run.ensures_component, Run.ensures_changeComponent]
  have hstopped : ((w.component e.component).handlers.forM fun handler => handler.stop out).Ensures
      w fun _ => Rests host others identity e state (· = none) := by
    apply ensures_handlers_rest _ _ _ hw
    · intro own
      apply (bears_resting hout).tolerates.provider_stop
      exact fun s _ className =>
        Regime.keeps_unregisterService_aside hout.toDiscreet resting_of_aside className s
    · exact fun own => resting_tracked .invalid
    · intro own u hu
      refine (ensures_configurator_withdraw hout hu).mono ?_
      exact fun _ u' hu' => ⟨none, hu', rfl⟩
  refine hstopped.mono ?_
  rintro _ u ⟨_, hu, rfl⟩
  have hinvalid := hu.changeState .invalid
  refine ((bears_resting hout).note _ _ hinvalid).mono ?_
  intro _ w' hallows _
  obtain ⟨hw', -⟩ := hallows hinvalid
  exact ⟨⟨none, .invalid, hw'⟩, .inl (by simp [Shown, hw'.recorded, hw'.stays])⟩

omit hout in
theorem posting_heeds :
    (posting host others identity e).Heeds e (.configurator e.configurator) (Shown e) where
  kept := Shown.of_displays
  changed hdisplays := hdisplays.imp_right And.left
  absent := fun ⟨_, _, hw⟩ hnot => absurd hw.registered hnot
  admitted state := fun ⟨own, _, hw⟩ => ⟨own, state, hw.changeState state⟩
  leads _ _ hshown := .inl hshown

theorem posting_write (s : Ref .service) (field : String) (value : Value) :
    (posting host others identity e).Keeps (Service.write out s field value) :=
  posting_keeps_of_resting fun _ _ =>
    Regime.keeps_write_aside hout.toDiscreet resting_of_aside s field value

theorem posting_updated (configuration : Option Properties) :
    (posting host others identity e).Keeps
      (Configurator.updated out e.configurator configuration) := by
  apply posting_keeps_of_resting
  intro own state
  have H : (resting host others identity e own (own.map Endpoint.handle) state).Bears e out :=
    bears_resting hout
  apply H.tolerates.configurator_updated
  · exact fun s _ => Regime.keeps_write_aside hout.toDiscreet resting_of_aside s
  · apply H.tolerates.configurator_propagate
    · exact fun s _ => Regime.keeps_extend_aside hout.toDiscreet resting_of_aside s
    · exact fun s _ => Regime.keeps_reduce_aside hout.toDiscreet resting_of_aside s
    · intro entries w _
      rw [Run.ensures_changeConfigurator]
      intro hw
      have hstands : e.Stands
          (w.changeConfigurator e.configurator fun c => { c with propagated := entries }) :=
        hw.stands.changeConfigurator (fun _ => rfl) fun _ => rfl
      exact ⟨hw.of_unchanged hstands rfl rfl (by simp) (by simp) (by simp) rfl, trivial⟩

variable (hcallbacks : ∀ w w', callbacks w w' → (posting host others identity e).Allows w w')
include hcallbacks

theorem posting_call (number : Nat) (component : Ref .component) :
    (posting host others identity e).Keeps (out.call number component) := by
  intro w _
  refine (hout.call number component w).mono ?_
  intro _ w' hturn
  apply Regime.Allows.of_turn _ hcallbacks hturn
  exact fun u v hidle => posting_of_resting fun _ _ => resting_of_aside hidle.aside

/-- Handlers that are told of the state that their component has. -/
theorem ensures_told (state : Validity) (w : World σ)
    (hw : (posting host others identity e).holds w)
    (hstate : (w.component e.component).state = state) (handler : Handler)
    (hhandler : handler ∈ e.handlers) :
    (handler.stateChanged out state).Ensures w fun _ w' =>
      (posting host others identity e).Allows w w' ∧
        (Shown e w' ∨ handler ≠ .configurator e.configurator) := by
  have H : (posting host others identity e).Bears e out := bears_posting hout
  rcases Ensemble.mem_handlers.mp hhandler with rfl | rfl | rfl
  · have hprovider : (posting host others identity e).Keeps
        (Provider.stateChanged out e.provider state) := by
      apply posting_keeps_of_resting
      intro own state'
      apply (bears_resting hout).tolerates.provider_stateChanged
      · exact fun s _ className =>
          Regime.keeps_registerService_aside hout.toDiscreet resting_of_aside className s
      · exact fun s _ className =>
          Regime.keeps_unregisterService_aside hout.toDiscreet resting_of_aside className s
    exact (hprovider w hw).mono fun _ _ hallows => ⟨hallows, .inr (by simp)⟩
  · exact (ensures_configurator_told hout hw hstate).mono fun _ _ h => ⟨h.1, .inl h.2⟩
  · have hcaller := H.tolerates.caller_stateChanged
      (fun tracked => posting_keeps_of_resting fun _ _ => resting_tracked tracked)
      (posting_call hout hcallbacks) state
    exact (hcaller w hw).mono fun _ _ hallows => ⟨hallows, .inr (by simp)⟩

/-- A start publishes the endpoint, and then makes the component valid. -/
theorem posting_start :
    (posting host others identity e).Keeps (Component.start out e.component) := by
  have H : (posting host others identity e).Bears e out := bears_posting hout
  apply H.tolerates.holding
  rintro w ⟨own, state, hw⟩
  simp only [Run.ensures_bind, Run.ensures_component]
  have hstarted : ((w.component e.component).handlers.forM fun handler => handler.start out).Ensures
      w fun _ => Rests host others identity e state (·.isSome = true) := by
    apply ensures_handlers_rest _ _ _ hw
    · intro own
      apply (bears_resting hout).tolerates.provider_start
      exact fun s _ className =>
        Regime.keeps_registerService_aside hout.toDiscreet resting_of_aside className s
    · exact fun own => Regime.keeps_pure ()
    · intro own u hu
      refine (ensures_configurator_publish hout hu).mono ?_
      rintro _ u' ⟨endpoint, hu'⟩
      exact ⟨some endpoint, hu', rfl⟩
  refine hstarted.mono ?_
  rintro _ u ⟨own', hu, hsome⟩
  refine ((bears_resting hout).note _ u hu).mono ?_
  intro _ v hallows
  obtain ⟨hv, -⟩ := hallows hu
  have hposted : (posting host others identity e).holds v := ⟨own', state, hv⟩
  refine (H.ensures_checkValidity posting_heeds (ensures_told hout hcallbacks) ?_ hposted).mono ?_
  · intro className transition
    apply posting_keeps_of_resting
    exact fun _ _ => Regime.keeps_tell_aside hout.toDiscreet resting_of_aside _
  · rintro _ w' ⟨hchecked, hheeded⟩ _
    obtain ⟨hw', hdisplays⟩ := hchecked hposted
    refine ⟨hw', .inl (hheeded.elim id fun hvalid => ?_)⟩
    -- A component that was valid already has the endpoint that was just published.
    have hshown : Shown e v := by
      rw [Shown, hv.recorded, hvalid]
      simpa using hsome
    exact hshown.of_displays hdisplays

theorem posting_operation (operation : Ensemble.Operation) :
    (posting host others identity e).Keeps (operation.run out e) := by
  have H : (posting host others identity e).Bears e out := bears_posting hout
  have htold : ∀ state w, (posting host others identity e).holds w →
      (w.component e.component).state = state → ∀ handler ∈ e.handlers,
        (handler.stateChanged out state).Ensures w fun _ w' =>
          (posting host others identity e).Allows w w' ∧
            (Shown e w' ∨ handler ≠ .configurator e.configurator) :=
    ensures_told hout hcallbacks
  have htell : ∀ className transition,
      (posting host others identity e).Keeps (out.tell (.stateChanged className transition)) := by
    intro className transition
    apply posting_keeps_of_resting
    exact fun _ _ => Regime.keeps_tell_aside hout.toDiscreet resting_of_aside _
  cases operation with
  | start => exact posting_start hout hcallbacks
  | stop => exact posting_stop hout
  | checkValidity => exact H.component_checkValidity posting_heeds htold htell
  | setState state => exact H.component_setState posting_heeds htold htell state
  | setField field value =>
      exact H.tolerates.component_setField (fun s _ => posting_write hout s) field value
  | update configuration => exact posting_updated hout configuration

end Layer

theorem posting_operates {out : Collaborators σ} (hout : Layered e.Operates (Hosting host) out)
    (hoperates : e.Operates out w w') : (posting host others identity e).Allows w w' := by
  apply hout.operates_allowed _ hoperates
  intro callbacks out hcallbacks hrule
  exact posting_operation hrule hcallbacks

/-- A component that was configured once starts with nothing published. -/
theorem Ensemble.New.posted (hnew : e.New w)
    (hasks : (w.component e.component).descriptor.IsConfigurable)
    (hothers : (host w.surroundings).Orderly) :
    Posted host (host w.surroundings).endpoints (w.configurator e.configurator).identity e none
      none .invalid w where
  stands := hnew.stands
  registered := (hnew.configurable hasks).2
  configurable := (hnew.configurable hasks).1
  named := rfl
  recorded := hnew.unpublished
  stays := hnew.invalid
  shows := ⟨hothers, by simp⟩
  addressed := by simp

/-- The endpoint of a configurable component follows its state over a host in memory, after
any operations, whose methods may run operations themselves, to any depth, and may fail in
any way. While the component is valid the host holds one endpoint for it, under its
identity; while it is invalid it holds none. So a push to the identity reaches the component
once or not at all, if the endpoints of others have other identities. -/
theorem endpoint_follows_state {out : Collaborators σ} {w₀ w₁ w₂ : World σ}
    (hout : Layered e.Operates (Hosting host) out) (hassembled : e.Assembled out w₀ w₁)
    (hasks : (w₁.component e.component).descriptor.IsConfigurable)
    (hothers : (host w₀.surroundings).Orderly)
    (hfree : ∀ endpoint ∈ (host w₀.surroundings).endpoints,
      endpoint.target ≠ .configurator e.configurator)
    (hturn : Turn (Idle host) (e.Operates out) w₁ w₂) :
    ((w₂.component e.component).state = .valid →
      ∃ endpoint, (host w₂.surroundings).endpointsFor (.configurator e.configurator) = [endpoint] ∧
        endpoint.identity = (w₂.configurator e.configurator).identity) ∧
    ((w₂.component e.component).state = .invalid →
      (host w₂.surroundings).endpointsFor (.configurator e.configurator) = []) ∧
    ((∀ endpoint ∈ (host w₀.surroundings).endpoints,
        endpoint.identity ≠ (w₂.configurator e.configurator).identity) →
      (host w₂.surroundings).targets (w₂.configurator e.configurator).identity =
        if (w₂.component e.component).state = .valid then [.configurator e.configurator]
        else []) := by
  obtain ⟨callbacks, hrule⟩ := hout.exists_rule
  obtain ⟨hnew, hhost⟩ := hassembled.new hrule.log
  have hposted := hnew.posted hasks (hhost ▸ hothers)
  rw [hhost] at hposted
  have hstart : Shown e w₁ := by simp [Shown, hposted.recorded, hposted.stays]
  have hallows : (posting host (host w₀.surroundings).endpoints
      (w₁.configurator e.configurator).identity e).Allows w₁ w₂ := by
    apply Regime.Allows.of_turn _ (fun _ _ => posting_operates hout) hturn
    exact fun u v hidle => posting_of_resting fun _ _ => resting_of_aside hidle.aside
  obtain ⟨⟨own, state, hend⟩, hdisplays⟩ := hallows ⟨none, .invalid, hposted⟩
  have hshown := hstart.of_displays hdisplays
  rw [Shown, hend.recorded, hend.stays, Option.isSome_map] at hshown
  rw [hend.stays, hend.named, hend.shows.endpointsFor_eq hfree fun endpoint hown =>
    (hend.addressed endpoint hown).2]
  refine ⟨fun hvalid => ?_, fun hinvalid => ?_, fun hnone => ?_⟩
  · obtain ⟨endpoint, rfl⟩ := Option.isSome_iff_exists.mp (hshown.mpr hvalid)
    exact ⟨endpoint, rfl, (hend.addressed endpoint rfl).1⟩
  · cases own with
    | none => rfl
    | some endpoint => simp [hinvalid] at hshown
  · rw [hend.shows.targets_eq hnone fun endpoint hown => (hend.addressed endpoint hown).1]
    cases own with
    | none =>
        have hinvalid : state ≠ .valid := by simpa using hshown
        rw [if_neg hinvalid]
        rfl
    | some endpoint =>
        rw [if_pos (hshown.mp rfl), Option.map_some, (hend.addressed endpoint rfl).2]
        rfl

/-! ## A dial that flips -/

/-- A component with a configurable property and a callback on becoming valid. -/
def Component.dial : Component :=
  .create
    (.build "Dial" [] []
      [((Element.leaf "Properties").withAttribute "configurable" "true").withChild
          ((Element.leaf "Property").withAttribute "name" "angle"),
        ((Element.leaf "callback").withAttribute "final" "VALID").withAttribute "method" "turn"])
    (.ofList [("turn", ⟨"turn", false, false, 0⟩)])

/-- The dial on a platform of its own. -/
def World.dial (surroundings : σ) : World σ where
  platform :=
    { Platform.ofSettings .standard with components := (Store.empty.add Component.dial).2 }
  surroundings := surroundings

/-- The dial with its handlers and its property. -/
def Ensemble.dial : Ensemble := ⟨⟨0⟩, ⟨0⟩, ⟨0⟩, ⟨0⟩, [], [⟨0⟩]⟩

/-- A registry and a host. -/
structure Exchange where
  registry : Registry
  host : Host Target

namespace Exchange

/-- Keep another host. -/
def setHost (host : Host Target) (exchange : Exchange) : Exchange :=
  { exchange with host := host }

/-- The registry and the bodies of methods for an exchange. -/
def memory (method : Run Exchange Ending) : Collaborators Exchange :=
  .inMemory registry (fun after exchange => { exchange with registry := after })
    (fun _ exchange => exchange) fun _ => method

/-- The collaborators of an exchange. -/
def collaborators (method : Run Exchange Ending) : Collaborators Exchange :=
  (memory method).hosting Exchange.host setHost

theorem discreet_memory (method : Run Exchange Ending) :
    Discreet Exchange.host (memory method) :=
  discreet_inMemory (fun _ _ => rfl) fun _ _ => rfl

theorem hosting_collaborators {callbacks : World Exchange → World Exchange → Prop}
    {method : Run Exchange Ending}
    (hmethod : ∀ w, method.Ensures w fun _ => Turn (Idle Exchange.host) callbacks w) :
    Hosting Exchange.host callbacks (collaborators method) where
  toDiscreet := { discreet_memory method with }
  publish identity properties target w := by
    simp [collaborators, Collaborators.hosting, setHost]
  withdraw handle w := by
    simp only [collaborators, Collaborators.hosting, Run.ensures_bind, Run.ensures_surroundings]
    cases hanswer : w.surroundings.host.withdraw handle <;>
      simp [setHost]
  call _ _ w := hmethod w

/-- The method stops the component while it becomes valid, starts it again, and fails. -/
def flipping : Collaborators Exchange :=
  collaborators (Ensemble.dial.performing (collaborators (return .returned)) [.stop, .start]
    (.failed "stuck"))

theorem layered_flipping : Layered Ensemble.dial.Operates (Hosting Exchange.host) flipping := by
  have hbelow : Layered Ensemble.dial.Operates (Hosting Exchange.host)
      (collaborators (return .returned)) :=
    .bottom (hosting_collaborators fun w => (Run.ensures_pure _).mpr .refl)
  exact hbelow.above (hosting_collaborators (Ensemble.dial.turn_performing _ _ _))

end Exchange

/-- The dial is configured, the caller before the configurator, and started. The start within
its start leaves it with the second endpoint that was published; when it is flipped to
invalid there is none. -/
theorem endpoint_follows_state_flipping :
    ∃ w₁ w₂ w₃ : World Exchange,
      (Component.configure Exchange.flipping ⟨0⟩
        [.caller ⟨0⟩, .configurator ⟨0⟩, .provider ⟨0⟩] .empty).run (.dial ⟨.empty, .empty⟩) =
          some ((), w₁) ∧
      (Component.start Exchange.flipping ⟨0⟩).run w₁ = some ((), w₂) ∧
      (Component.setState Exchange.flipping ⟨0⟩ .invalid).run w₂ = some ((), w₃) ∧
      w₂.surroundings.host.published = 2 ∧
      w₂.surroundings.host.targets "Dial" = [.configurator ⟨0⟩] ∧
      w₃.surroundings.host.targets "Dial" = [] := by
  have hends : ((Component.configure Exchange.flipping ⟨0⟩
      [.caller ⟨0⟩, .configurator ⟨0⟩, .provider ⟨0⟩] .empty).run (.dial ⟨.empty, .empty⟩)).bind
        (fun first => ((Component.start Exchange.flipping ⟨0⟩).run first.2).bind fun second =>
          ((Component.setState Exchange.flipping ⟨0⟩ .invalid).run second.2).map fun third =>
            decide ((first.2.provider ⟨0⟩).services = [] ∧
              (first.2.configurator ⟨0⟩).properties = [⟨0⟩] ∧
              (first.2.component ⟨0⟩).descriptor.IsConfigurable ∧
              (second.2.component ⟨0⟩).state = .valid ∧
              (second.2.configurator ⟨0⟩).identity = "Dial" ∧
              second.2.surroundings.host.published = 2 ∧
              (third.2.component ⟨0⟩).state = .invalid ∧
              (third.2.configurator ⟨0⟩).identity = "Dial")) = some true := by
    decide +kernel
  obtain ⟨⟨⟨⟩, w₁⟩, hconfigured, hends⟩ := Option.bind_eq_some_iff.mp hends
  obtain ⟨⟨⟨⟩, w₂⟩, hstarted, hends⟩ := Option.bind_eq_some_iff.mp hends
  obtain ⟨⟨⟨⟩, w₃⟩, hflipped, hfacts⟩ := Option.map_eq_some_iff.mp hends
  obtain ⟨hservices, hproperties, hasks, hvalid, hidentity, hpublished, hinvalid, hidentity'⟩ :=
    of_decide_eq_true hfacts
  have hassembled : Ensemble.dial.Assembled Exchange.flipping (.dial ⟨.empty, .empty⟩) w₁ :=
    ⟨⟨_, _, rfl⟩, ⟨_, _, by decide, hconfigured⟩, hservices, hproperties⟩
  have hnone : ∀ endpoint ∈ (Host.empty : Host Target).endpoints, ∀ p : Prop, p := nofun
  have hstart : Turn (Idle Exchange.host) (Ensemble.dial.Operates Exchange.flipping) w₁ w₂ :=
    .single (.inr ⟨.start, hstarted⟩)
  obtain ⟨-, -, hshown⟩ := endpoint_follows_state Exchange.layered_flipping hassembled hasks
    Host.orderly_empty (fun endpoint hmem => hnone endpoint hmem _) hstart
  obtain ⟨-, -, hgone⟩ := endpoint_follows_state Exchange.layered_flipping hassembled hasks
    Host.orderly_empty (fun endpoint hmem => hnone endpoint hmem _)
    (hstart.tail (.inr ⟨.setState .invalid, hflipped⟩))
  refine ⟨w₁, w₂, w₃, hconfigured, hstarted, hflipped, hpublished, ?_, ?_⟩
  · have htargets := hshown fun endpoint hmem => hnone endpoint hmem _
    change w₂.surroundings.host.targets (w₂.configurator ⟨0⟩).identity = _ at htargets
    rw [hidentity] at htargets
    rw [htargets]
    exact if_pos hvalid
  · have htargets := hgone fun endpoint hmem => hnone endpoint hmem _
    change w₃.surroundings.host.targets (w₃.configurator ⟨0⟩).identity = _ at htargets
    rw [hidentity'] at htargets
    rw [htargets]
    exact if_neg (hinvalid ▸ by decide)

end Componentry

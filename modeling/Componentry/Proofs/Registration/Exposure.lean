import Componentry.Proofs.Registration.Diary
import Componentry.Proofs.Service.Pushing

/-!
# Exposed registrations

A service is exposed if it is registered while its component is not valid. Over a
registry that calls back this can happen: the state is looked at before the registry is
called and not again, so a handle may be handed over when the component has become
invalid in the meantime, or while it is being stopped, which tells no handler of the
state in the end.

There is no other way: a service that is exposed holds a late handle.
-/

namespace Componentry

variable {σ α : Type} {diary : σ → Diary} {e : Ensemble} {w w' : World σ}

section Layer

variable {callbacks : World σ → World σ → Prop} {out : Collaborators σ}
  (hout : CallingBack diary e callbacks out)
include hout

theorem advancing_tell (event : Event) : (advancing diary e).Keeps (out.tell event) := by
  intro w _
  rw [Run.ensures_tell]
  exact advancing_of_idle ⟨rfl, hout.announce event _⟩

variable (hcallbacks : ∀ w w', callbacks w w' → (advancing diary e).Allows w w')
include hcallbacks

omit hout in
theorem advancing_of_turn (hturn : Turn (Idle diary) callbacks w w') :
    (advancing diary e).Allows w w' :=
  .of_turn (fun _ _ => advancing_of_idle) hcallbacks hturn

theorem admits_advancing : (advancing diary e).Admits e out where
  stands hw := hw.stands
  quiet hquiet := by
    refine advancing_of_dropped (fun hstands => hstands.of_quiet hquiet) ?_ (hquiet.state _) ?_
    · rw [hquiet.surroundings]
    · rw [hquiet.service]
      exact fun _ _ _ hheld => hheld
  note record w _ := by
    rw [Run.ensures_note]
    exact advancing_of_idle ⟨rfl, hout.log record _⟩
  published _ _ := advancing_tell hout _
  withdrawn _ _ := advancing_tell hout _
  publish _ _ _ w _ := (hout.publish _ _ _ w).mono fun _ _ => advancing_of_turn hcallbacks
  withdraw _ w _ := (hout.withdraw _ w).mono fun _ _ => advancing_of_turn hcallbacks

theorem advancing_update (handle : Registration) (properties : Properties) :
    (advancing diary e).Keeps (out.update handle properties) := by
  intro w _
  exact (hout.update handle properties w).mono fun _ _ => advancing_of_turn hcallbacks

omit hout hcallbacks in
theorem advancing_revised {s : Ref .service} {changed : Service}
    (hrevised : (w.service s).Revised changed) :
    (advancing diary e).Allows w (w.setService s changed) := by
  apply advancing_setService
  intro handle hheld
  rw [← hrevised.registration]
  exact hheld

theorem advancing_write (s : Ref .service) (field : String) (value : Value) :
    (advancing diary e).Keeps (Service.write out s field value) :=
  Regime.keeps_write (advancing_update hout hcallbacks) (fun _ hrevised _ =>
    advancing_revised hrevised) field value

theorem advancing_extend (s : Ref .service) (entries : Properties) :
    (advancing diary e).Keeps (Service.extend out s entries) :=
  Regime.keeps_extend (advancing_update hout hcallbacks) (fun _ => advancing_revised) entries

theorem advancing_reduce (s : Ref .service) (entries : Properties) :
    (advancing diary e).Keeps (Service.reduce out s entries) :=
  Regime.keeps_reduce (advancing_update hout hcallbacks) (fun _ => advancing_revised) entries

theorem advancing_register (s : Ref .service) :
    (advancing diary e).Keeps (Service.register out s) := by
  intro w hw
  simp only [Service.register, Run.ensures_bind, Run.ensures_service]
  split
  · exact (Run.ensures_pure _).mpr (.refl w)
  · refine (Run.ensures_bind _ _).mpr ((hout.register _ _ _ w).mono ?_)
    intro answer w' hanswer
    cases hanswer with
    | failed hturn => exact (Run.ensures_pure _).mpr (advancing_of_turn hcallbacks hturn)
    | @handed handle u v x hbefore hsame hmade hhandle hbehind hplatform hlate =>
        simp only [Run.ensures_bind, Run.ensures_service, Run.ensures_setService]
        have hwu := advancing_of_turn hcallbacks hbefore
        have huv := advancing_of_made (e := e) hsame hmade
        have hvx := advancing_of_turn hcallbacks hbehind
        obtain ⟨hu, hadvances⟩ := hwu hw
        obtain ⟨hv, -⟩ := huv hu
        obtain ⟨-, hadvances'⟩ := hvx hv
        have hnumber : handle.number = (diary v.surroundings).made := by
          rw [hmade]
          exact hhandle
        -- Whatever is registered meanwhile comes to hold a handle that is made later.
        have hfresh : ∀ t ∈ e.services, (x.service t).registration ≠ some handle := by
          intro t ht hheld
          rcases hadvances'.held t ht handle hheld with hbefore | hnew
          · rw [(World.objects_of_platform hsame).2.1] at hbefore
            have hle := hu.made t ht handle hbefore
            omega
          · omega
        have hregistered : ∀ service : Service, service.registration = some handle →
            (advancing diary e).Allows w (w'.setService s service) := by
          intro service hgiven
          refine advancing_of_handed hfresh hplatform hlate hgiven (hwu.trans (huv.trans hvx)) ?_ ?_
          · rw [hhandle]
            exact Nat.lt_succ_of_le hadvances.made
          · rw [hnumber]
            exact hadvances'.made
        have hchanged := hregistered { w'.service s with registration := some handle } rfl
        refine (hchanged.then hw (Regime.keeps_push (advancing_update hout hcallbacks) _ _)).mono ?_
        intro answer w'' hallows
        exact (Run.ensures_pure _).mpr hallows

theorem advancing_registerService (className : String) (s : Ref .service) :
    (advancing diary e).Keeps (Provider.registerService out className s) := by
  have H : (advancing diary e).Admits e out := admits_advancing hout hcallbacks
  exact Regime.keeps_registerService H.note (advancing_tell hout)
    (advancing_register hout hcallbacks s) className

/-- A registration that is taken back: whatever the registry does meanwhile, the service
is not left registered in time unless the component is valid and not being stopped. -/
theorem ensures_unregisterService_released (className : String) {s : Ref .service}
    (hs : s ∈ e.services) (hw : Counted diary e w) :
    (Provider.unregisterService out className s).Ensures w fun _ w' =>
      (advancing diary e).Allows w w' ∧ Released diary e s w' := by
  have H : (advancing diary e).Admits e out := admits_advancing hout hcallbacks
  have hsilent : ∀ {m : Run σ Unit} {u}, (advancing diary e).Keeps m →
      (advancing diary e).Allows w u → Released diary e s u →
      m.Ensures u fun _ w' => (advancing diary e).Allows w w' ∧ Released diary e s w' := by
    intro m u hm hallows hreleased
    refine (hm u (hallows hw).1).mono ?_
    intro _ w' hallows'
    exact ⟨hallows.trans hallows', hreleased.of_advances hs (hallows' (hallows hw).1).2⟩
  simp only [Provider.unregisterService, Run.ensures_bind, Run.ensures_service, Service.unregister]
  split
  next hfree =>
    simp only [Run.ensures_pure]
    exact ⟨.refl w, .of_unregistered hfree⟩
  next handle hheld =>
    simp only [Run.ensures_bind, Run.ensures_setService, Run.ensures_pure]
    have hdropped : (advancing diary e).Allows w (w.setService s { w.service s with
        registration := none }) := advancing_setService (by simp)
    refine (hout.unregister handle _).mono ?_
    intro answer u hturn
    have hallows := advancing_of_turn hcallbacks hturn
    -- It is enough that the service was not registered when the registry was called.
    have hreleased : Released diary e s u := by
      refine Released.of_advances (.of_unregistered ?_) hs (hallows (hdropped hw).1).2
      simp
    cases answer with
    | error failure => exact hsilent (H.tolerates.noteCaught _ _ _ _) (hdropped.trans hallows) hreleased
    | ok _ =>
        exact hsilent ((H.note _).bind fun _ => advancing_tell hout _) (hdropped.trans hallows)
          hreleased

theorem ensures_unregisterAll_released (hw : Counted diary e w) :
    (Provider.unregisterAll out e.provider e.component).Ensures w fun _ w' =>
      (advancing diary e).Allows w w' ∧ ∀ s ∈ e.services, Released diary e s w' := by
  simp only [Provider.unregisterAll, Run.ensures_bind, Run.ensures_component,
    Run.ensures_provider, hw.stands.provider]
  refine Run.ensures_forM_reached ((advancing diary e).Allows w) (Released diary e) ?_ (.refl w)
  intro s hs u hallows
  obtain ⟨hu, -⟩ := hallows hw
  refine (ensures_unregisterService_released hout hcallbacks _ hs hu).mono ?_
  rintro _ u' ⟨hallows', hreleased⟩
  refine ⟨hallows.trans hallows', hreleased, fun t ht hbefore => ?_⟩
  exact hbefore.of_advances ht (hallows' hu).2

/-- What the provider does while its component is held releases its services. -/
theorem ensures_provider_released {m : Ref .component → Run σ Unit}
    (hw : Counted diary e w)
    (hm : ∀ u, Counted diary e u → (m e.component).Ensures u fun _ u' =>
      (advancing diary e).Allows u u' ∧ ∀ s ∈ e.services, Released diary e s u') :
    (Run.provider e.provider >>= fun provider => Run.whileAlive provider.component m).Ensures w
      fun _ w' => (advancing diary e).Allows w w' ∧ ∀ s ∈ e.services, Released diary e s w' := by
  have H : (advancing diary e).Admits e out := admits_advancing hout hcallbacks
  rw [Run.ensures_bind, Run.ensures_provider, hw.stands.provider,
    Run.ensures_whileAlive_owned hw.stands.owned]
  have hheld := H.slight (.hold w e.component)
  refine (hm _ (hheld hw).1).mono ?_
  rintro _ u ⟨hallows, hreleased⟩
  have hends := H.slight (.release u e.component)
  refine ⟨(hheld.trans hallows).trans hends, fun s hs => ?_⟩
  exact (hreleased s hs).of_advances hs (hends (hallows (hheld hw).1).1).2

/-- A provider that is told of the state that its component has covers its services. -/
theorem ensures_provider_covered (state : Validity) (w : World σ) (hw : Counted diary e w)
    (hstate : (w.component e.component).state = state) :
    (Provider.stateChanged out e.provider state).Ensures w fun _ w' =>
      (advancing diary e).Allows w w' ∧ Covered diary e w' := by
  have H : (advancing diary e).Admits e out := admits_advancing hout hcallbacks
  cases state with
  | valid =>
      have hkeeps : (advancing diary e).Keeps (Provider.stateChanged out e.provider .valid) := by
        refine H.provider_bind (H.tolerates.whileAlive fun component hcomponent => ?_)
        cases hcomponent
        exact H.tolerates.provider_registerAll fun s _ className =>
          advancing_registerService hout hcallbacks className s
      refine (hkeeps w hw).mono ?_
      intro _ w' hallows
      refine ⟨hallows, Covered.of_advances (fun _ _ _ => hstate) (hallows hw).2⟩
  | invalid =>
      refine (ensures_provider_released hout hcallbacks hw fun u hu =>
        ensures_unregisterAll_released hout hcallbacks hu).mono ?_
      rintro _ w' ⟨hallows, hreleased⟩
      exact ⟨hallows, fun s hs htimely => (hreleased s hs htimely).1⟩

/-! ## Stopping -/

/-- Handlers that are stopped while that is noted: with the provider among them no service
is left registered in time. -/
theorem ensures_stop_released {handlers : List Handler}
    (hhandlers : ∀ handler ∈ handlers, handler ∈ e.handlers) (hw : Counted diary e w) :
    (handlers.forM fun handler => handler.stop out).Ensures w fun _ w' =>
      (advancing diary e).Allows w w' ∧
        (.provider e.provider ∈ handlers → ∀ s ∈ e.services, Released diary e s w') := by
  have H : (advancing diary e).Admits e out := admits_advancing hout hcallbacks
  refine (Run.ensures_forM_reached ((advancing diary e).Allows w)
    (fun handler u => handler = .provider e.provider →
      ∀ s ∈ e.services, Released diary e s u) ?_ (.refl w)).mono
    fun _ w' h => ⟨h.1, fun hmem => h.2 _ hmem rfl⟩
  intro handler hmem u hallows
  obtain ⟨hu, -⟩ := hallows hw
  have hfirst : (handler.stop out).Ensures u fun _ u' => (advancing diary e).Allows u u' ∧
      (handler = .provider e.provider → ∀ s ∈ e.services, Released diary e s u') := by
    rcases Ensemble.mem_handlers.mp (hhandlers handler hmem) with rfl | rfl | rfl
    · refine (ensures_provider_released hout hcallbacks hu fun v hv =>
        ensures_unregisterAll_released hout hcallbacks hv).mono ?_
      exact fun _ _ h => ⟨h.1, fun _ => h.2⟩
    · exact (H.configurator_withdraw u hu).mono fun _ _ h => ⟨h, by simp⟩
    · exact (H.tracked .invalid u hu).mono fun _ _ h => ⟨h, by simp⟩
  refine hfirst.mono ?_
  rintro _ u' ⟨hallows', hreleased⟩
  refine ⟨hallows.trans hallows', hreleased, fun other _ hbefore hother s hs => ?_⟩
  exact (hbefore hother s hs).of_advances hs (hallows' hu).2

/-- A stop that is noted ends with no service registered in time. -/
theorem ensures_stop_covered (hw : Counted diary e w)
    (hstopping : 0 < (diary w.surroundings).stops) :
    (Component.stop out e.component).Ensures w fun _ => (advancing diary e).Allows w := by
  have H : (advancing diary e).Admits e out := admits_advancing hout hcallbacks
  rw [Component.stop, Run.ensures_holding]
  have hheld := H.slight (.hold w e.component)
  obtain ⟨hcounted, hadvances⟩ := hheld hw
  simp only [Run.ensures_bind, Run.ensures_component, Run.ensures_changeComponent]
  refine (ensures_stop_released hout hcallbacks hcounted.stands.handlers hcounted).mono ?_
  rintro _ u ⟨hallows, hreleased⟩
  obtain ⟨hu, hadvances'⟩ := hallows hcounted
  have hstops : 0 < (diary u.surroundings).stops := by
    rw [hadvances'.stops, hadvances.stops]
    exact hstopping
  -- The handlers have released all services, which cannot be in time during the stop.
  have huntimely : ∀ s ∈ e.services, ¬ Timely diary u s := by
    intro s hs htimely
    have hservices := hcounted.stands.registered (List.ne_nil_of_mem hs)
    have hnone := (hreleased hservices s hs htimely).2
    omega
  have hinvalid : (advancing diary e).Allows u
      (u.changeComponent e.component fun c => { c with state := .invalid }) := by
    intro _
    have hcovered : Covered diary e
        (u.changeComponent e.component fun c => { c with state := .invalid }) := by
      intro s hs htimely
      exact absurd htimely (huntimely s hs)
    exact ⟨advancing_heeds.admitted .invalid hu,
      advancing_heeds.leads .invalid (.refl _) hcovered⟩
  refine (H.note _ _ (hinvalid hu).1).mono ?_
  intro _ v hnoted
  exact ((hheld.trans hallows).trans (hinvalid.trans hnoted)).trans
    (H.slight (.release v e.component))

/-! ## Operations -/

theorem advancing_operation {operation : Ensemble.Operation} (hother : operation ≠ .stop) :
    (advancing diary e).Keeps (operation.run out e) := by
  have H : (advancing diary e).Admits e out := admits_advancing hout hcallbacks
  have K : (advancing diary e).Heeds e (.provider e.provider) (Covered diary e) := advancing_heeds
  have hregister : ∀ s ∈ e.services, ∀ className,
      (advancing diary e).Keeps (Provider.registerService out className s) :=
    fun s _ className => advancing_registerService hout hcallbacks className s
  have hcall : ∀ number component, (advancing diary e).Keeps (out.call number component) :=
    fun number component w _ =>
      (hout.call number component w).mono fun _ _ => advancing_of_turn hcallbacks
  have htold := H.ensures_stateChanged (ensures_provider_covered hout hcallbacks) hcall
  have htell : ∀ className transition,
      (advancing diary e).Keeps (out.tell (.stateChanged className transition)) :=
    fun _ _ => advancing_tell hout _
  have hwrite : ∀ s ∈ e.services, ∀ field value,
      (advancing diary e).Keeps (Service.write out s field value) :=
    fun s _ field value => advancing_write hout hcallbacks s field value
  cases operation with
  | start => exact H.component_start K htold htell (H.tolerates.provider_start hregister)
  | stop => exact absurd rfl hother
  | checkValidity => exact H.component_checkValidity K htold htell
  | setState state => exact H.component_setState K htold htell state
  | setField field value => exact H.tolerates.component_setField hwrite field value
  | update configuration =>
      refine H.tolerates.configurator_updated hwrite (H.tolerates.configurator_propagate
        (fun s _ entries => advancing_extend hout hcallbacks s entries)
        (fun s _ entries => advancing_reduce hout hcallbacks s entries) ?_) configuration
      intro entries w _
      rw [Run.ensures_changeConfigurator]
      refine advancing_of_dropped (fun hstands => ?_) rfl rfl fun _ _ _ hheld => hheld
      exact hstands.changeConfigurator (fun _ => rfl) fun _ => rfl

end Layer

/-- A stop that is noted while it is in progress leads on as the stop does. -/
theorem advancing_of_noted {u v : World σ} (hbefore : u.platform = w.platform)
    (hbegun : diary u.surroundings =
      { diary w.surroundings with stops := (diary w.surroundings).stops + 1 })
    (hstop : (advancing diary e).Allows u v) (hbehind : w'.platform = v.platform)
    (hended : diary w'.surroundings =
      { diary v.surroundings with stops := (diary v.surroundings).stops - 1 }) :
    (advancing diary e).Allows w w' := by
  intro hw
  obtain ⟨hcomponent, hservice, -⟩ := World.objects_of_platform hbefore
  obtain ⟨hcomponent', hservice', -⟩ := World.objects_of_platform hbehind
  have hu : Counted diary e u := by
    refine ⟨hw.stands.of_platform hbefore, ?_⟩
    rw [hservice, hbegun]
    exact hw.made
  obtain ⟨hv, hstops, hmade, hlate, hheld, hstopping, htracks⟩ := hstop hu
  have hbegin : Timely diary u = Timely diary w := by
    funext s
    rw [Timely, Timely, hservice, hbegun]
  have hend : Timely diary w' = Timely diary v := by
    funext s
    rw [Timely, Timely, hservice', hended]
  refine ⟨⟨hv.stands.of_platform hbehind, ?_⟩, ?_, ?_, ?_, ?_, ?_, ?_⟩
  · rw [hservice', hended]
    exact hv.made
  · rw [hended, hstops, hbegun]
    rfl
  · rw [hended]
    rw [hbegun] at hmade
    exact hmade
  · rw [hended]
    rw [hbegun] at hlate
    exact hlate
  · rw [hservice']
    rw [hservice, hbegun] at hheld
    exact hheld
  · intro _
    rw [hend, ← hbegin]
    refine hstopping ?_
    rw [hbegun]
    exact Nat.succ_pos _
  · rw [hcomponent, hbegin] at htracks
    rw [Covered, hend, hcomponent']
    exact htracks

theorem advancing_stirs {out : Collaborators σ}
    (hout : Layered (e.Stirs diary) (CallingBack diary e) out) (hstirs : e.Stirs diary out w w') :
    (advancing diary e).Allows w w' := by
  refine hout.acts_allowed ?_ w w' hstirs
  intro callbacks out hcallbacks hrule w w' hstirs
  cases hstirs with
  | operate operation hother hrun =>
      intro hw
      exact advancing_operation hrule hcallbacks hother w hw () w' hrun hw
  | @stop u v hbefore hbegun hrun hbehind hended =>
      refine advancing_of_noted hbefore hbegun (fun hu => ?_) hbehind hended
      have hstopping : 0 < (diary u.surroundings).stops := by
        rw [hbegun]
        exact Nat.succ_pos _
      exact ensures_stop_covered hrule hcallbacks hu hstopping () v hrun hu

/-- Over a registry and a host that may call back in any of their calls, to any depth, a
service is registered only while its component is valid exactly if it does not hold a late
handle while it is not: one that was handed over when the component was invalid already or
was being stopped. -/
theorem registered_only_valid_iff {out : Collaborators σ} {w₀ w₁ w₂ : World σ}
    (hout : Layered (e.Stirs diary) (CallingBack diary e) out) (hassembled : e.Assembled out w₀ w₁)
    (hturn : Turn (Idle diary) (e.Stirs diary out) w₁ w₂) :
    ∀ s ∈ (w₂.provider e.provider).services,
      ((w₂.service s).registration.isSome = true →
        (w₂.component e.component).state = .valid) ↔
      ∀ handle ∈ (diary w₂.surroundings).late, (w₂.service s).registration = some handle →
        (w₂.component e.component).state = .valid := by
  obtain ⟨callbacks, hrule⟩ := hout.exists_rule
  obtain ⟨hnew, -⟩ := hassembled.new hrule.log
  have hfree : ∀ s ∈ e.services, (w₁.service s).registration = none :=
    fun s hs => (hnew.fresh s hs).unregistered
  have hstart : Counted diary e w₁ := by
    refine ⟨hnew.stands, fun s hs handle hheld => ?_⟩
    rw [hfree s hs] at hheld
    cases hheld
  have hallows : (advancing diary e).Allows w₁ w₂ :=
    .of_turn (fun _ _ => advancing_of_idle) (fun _ _ => advancing_stirs hout) hturn
  obtain ⟨hend, hadvances⟩ := hallows hstart
  have hcovered : Covered diary e w₂ := by
    refine Covered.of_advances (fun s hs htimely => ?_) hadvances
    obtain ⟨handle, hheld, -⟩ := htimely
    rw [hfree s hs] at hheld
    cases hheld
  intro s hs
  rw [hend.stands.provider] at hs
  constructor
  · intro hvalid handle _ hheld
    exact hvalid (Option.isSome_iff_exists.mpr ⟨handle, hheld⟩)
  · intro hlate hregistered
    obtain ⟨handle, hheld⟩ := Option.isSome_iff_exists.mp hregistered
    by_cases hmember : handle ∈ (diary w₂.surroundings).late
    · exact hlate handle hmember hheld
    · exact hcovered s hs ⟨handle, hheld, hmember⟩

/-! ## A registry that interrupts -/

/-- A registry with the diary of a component. -/
structure Gate where
  registry : Registry
  late : List Registration
  stops : Nat

namespace Gate

def noted (gate : Gate) : Diary := ⟨gate.registry.registrations, gate.late, gate.stops⟩

def store (after : Registry) (gate : Gate) : Gate := { gate with registry := after }

/-- A handle is handed over, and noted if it is late. -/
def handOver (e : Ensemble) (handle : Registration) : Run Gate Unit := do
  let world ← get
  Run.changeSurroundings fun gate =>
    { gate with late := if e.Open noted world then gate.late else handle :: gate.late }

/-- Collaborators whose registry runs something behind every registration and behind every
handle that is taken back. -/
def collaborators (e : Ensemble) (behindRegister behindUnregister : Run Gate Unit) :
    Collaborators Gate where
  log _ gate := gate
  announce _ gate := gate
  register specifications properties factory := do
    match ← askRegistry registry store (·.register specifications properties factory) with
    | .ok handle =>
        behindRegister
        handOver e handle
        return .ok handle
    | .error failure => return .error failure
  unregister handle := do
    let answer ← askRegistry registry store (·.askUnregister handle)
    behindUnregister
    return answer
  update handle properties := askRegistry registry store (·.askUpdate handle properties)
  publish _ _ _ := return .ok ⟨0⟩
  withdraw _ := return .ok ()
  call _ _ := return .returned
  configure _ _ _ _ := return
  notify _ _ := return
  read _ _ value := return value
  ready _ := return true
  rounds := 1

theorem idle_askRegistry {ask : Registry → Except Failure (α × Registry)}
    (hcount : ∀ registry a after, ask registry = .ok (a, after) →
      after.registrations = registry.registrations) (w : World Gate) :
    (askRegistry registry store ask).Ensures w fun _ => Idle noted w := by
  simp only [askRegistry, Run.ensures_bind, Run.ensures_surroundings]
  split
  next a after hask =>
    simp only [Run.ensures_bind, Run.ensures_changeSurroundings, Run.ensures_pure]
    refine ⟨rfl, ?_⟩
    rw [World.surroundings_changeSurroundings, noted, store, hcount _ _ _ hask]
    rfl
  next => exact (Run.ensures_pure _).mpr ⟨rfl, rfl⟩

theorem callingBack_collaborators {e : Ensemble} {callbacks : World Gate → World Gate → Prop}
    {behindRegister behindUnregister : Run Gate Unit}
    (hregister : ∀ w, behindRegister.Ensures w fun _ => Turn (Idle noted) callbacks w)
    (hunregister : ∀ w, behindUnregister.Ensures w fun _ => Turn (Idle noted) callbacks w) :
    CallingBack noted e callbacks (collaborators e behindRegister behindUnregister) where
  log _ _ := rfl
  announce _ _ := rfl
  register specifications properties factory w := by
    simp only [collaborators, askRegistry, Run.ensures_bind, Run.ensures_surroundings]
    split
    next handle after hask =>
      simp only [Run.ensures_bind, Run.ensures_changeSurroundings, Run.ensures_pure]
      refine (hregister _).mono ?_
      intro _ x hturn
      simp only [handOver, Run.ensures_bind, Run.ensures_get, Run.ensures_changeSurroundings]
      have hmade : noted (w.changeSurroundings (store after)).surroundings =
          { noted w.surroundings with made := (noted w.surroundings).made + 1 } := by
        rw [World.surroundings_changeSurroundings, noted, store, (Registry.register_ok hask).2.2]
        rfl
      exact .handed (v := w.changeSurroundings (store after)) .refl rfl hmade
        (Registry.number_of_register hask) hturn rfl rfl
    next failure hask =>
      simp only [Run.ensures_pure]
      exact .failed .refl
  unregister handle w := by
    simp only [collaborators, Run.ensures_bind, Run.ensures_pure]
    refine (idle_askRegistry ?_ w).mono ?_
    · intro registry _ after hask
      exact (Registry.unregister_ok (Registry.askUnregister_ok hask)).2.2
    · intro _ u hidle
      refine (hunregister u).mono fun _ w' hturn => ?_
      exact (Relation.ReflTransGen.single (.inl hidle)).trans hturn
  update handle properties w := by
    refine (idle_askRegistry ?_ w).mono fun _ w' hidle => .single (.inl hidle)
    intro registry _ after hask
    exact (Registry.update_ok (Registry.askUpdate_ok hask)).2.2
  publish _ _ _ _ := (Run.ensures_pure _).mpr .refl
  withdraw _ _ := (Run.ensures_pure _).mpr .refl
  call _ _ _ := (Run.ensures_pure _).mpr .refl

/-- Collaborators that never interrupt. -/
def calm : Collaborators Gate := collaborators .clock (pure ()) (pure ())

/-- The clock is made invalid while its service is being registered. -/
def flipping : Collaborators Gate :=
  collaborators .clock (Ensemble.Operation.run calm .clock (.setState .invalid)) (pure ())

/-- The clock is started while its service is taken back. -/
def restarting : Collaborators Gate :=
  collaborators .clock (pure ()) (Ensemble.Operation.run calm .clock .start)

theorem layered_flipping : Layered (Ensemble.clock.Stirs noted)
    (CallingBack noted .clock) flipping := by
  have hnothing : ∀ {callbacks} (w : World Gate),
      (pure () : Run Gate Unit).Ensures w fun _ => Turn (Idle noted) callbacks w :=
    fun w => (Run.ensures_pure _).mpr .refl
  refine .above (.bottom (callingBack_collaborators hnothing hnothing)) ?_
  refine callingBack_collaborators (fun w _ w' hrun => ?_) hnothing
  exact .single (.inr (.operate (.setState .invalid) (by simp) hrun))

end Gate

/-- The service stays registered under the handle that was handed over while the clock was
invalid. -/
theorem registered_only_valid_iff_flipping :
    ∃ w₁ w₂ : World Gate,
      (Component.configure Gate.flipping ⟨0⟩
        [.provider ⟨0⟩, .configurator ⟨0⟩, .caller ⟨0⟩] .empty).run (.clock ⟨.empty, [], 0⟩) =
          some ((), w₁) ∧
      (Component.setState Gate.flipping ⟨0⟩ .valid).run w₁ = some ((), w₂) ∧
      (w₂.component ⟨0⟩).state = .invalid ∧ (w₂.service ⟨0⟩).registration = some ⟨1⟩ ∧
      ⟨1⟩ ∈ w₂.surroundings.late := by
  have hends : ((Component.configure Gate.flipping ⟨0⟩
      [.provider ⟨0⟩, .configurator ⟨0⟩, .caller ⟨0⟩] .empty).run (.clock ⟨.empty, [], 0⟩)).bind
        (fun first => ((Component.setState Gate.flipping ⟨0⟩ .valid).run first.2).map fun second =>
          decide ((first.2.provider ⟨0⟩).services = [⟨0⟩] ∧
            (first.2.configurator ⟨0⟩).properties = [⟨0⟩] ∧
            ⟨0⟩ ∈ (second.2.provider ⟨0⟩).services ∧
            (second.2.component ⟨0⟩).state = .invalid ∧
            (second.2.service ⟨0⟩).registration = some ⟨1⟩)) = some true := by
    decide +kernel
  obtain ⟨⟨⟨⟩, w₁⟩, hconfigured, hends⟩ := Option.bind_eq_some_iff.mp hends
  obtain ⟨⟨⟨⟩, w₂⟩, hset, hfacts⟩ := Option.map_eq_some_iff.mp hends
  obtain ⟨hservices, hproperties, hservice, hinvalid, hheld⟩ := of_decide_eq_true hfacts
  have hiff := registered_only_valid_iff Gate.layered_flipping
    (Ensemble.assembled_clock (.refl _) hconfigured hservices hproperties)
    (.single (.inr (.operate (.setState .valid) (by simp) hset))) ⟨0⟩ hservice
  refine ⟨w₁, w₂, hconfigured, hset, hinvalid, hheld, Decidable.byContradiction fun hnot => ?_⟩
  have hvalid := hiff.mpr (fun handle hlate hother => ?_) (by rw [hheld]; rfl)
  · rw [show (w₂.component Ensemble.clock.component).state = .invalid from hinvalid] at hvalid
    cases hvalid
  · rw [hheld] at hother
    cases hother
    exact absurd hlate hnot

/-- A service that is registered while its component is stopped stays registered behind the
stop. -/
theorem registered_behind_stop :
    ∃ w₁ w₂ w₃ : World Gate,
      (Component.configure Gate.restarting ⟨0⟩
        [.provider ⟨0⟩, .configurator ⟨0⟩, .caller ⟨0⟩] .empty).run (.clock ⟨.empty, [], 0⟩) =
          some ((), w₁) ∧
      (Component.start Gate.restarting ⟨0⟩).run w₁ = some ((), w₂) ∧
      (Component.stop Gate.restarting ⟨0⟩).run w₂ = some ((), w₃) ∧
      (w₃.component ⟨0⟩).state = .invalid ∧ (w₃.service ⟨0⟩).registration = some ⟨2⟩ := by
  have hends : ((Component.configure Gate.restarting ⟨0⟩
      [.provider ⟨0⟩, .configurator ⟨0⟩, .caller ⟨0⟩] .empty).run (.clock ⟨.empty, [], 0⟩)).bind
        (fun first => ((Component.start Gate.restarting ⟨0⟩).run first.2).bind fun second =>
          ((Component.stop Gate.restarting ⟨0⟩).run second.2).map fun third =>
            decide ((third.2.component ⟨0⟩).state = .invalid ∧
              (third.2.service ⟨0⟩).registration = some ⟨2⟩)) = some true := by
    decide +kernel
  obtain ⟨⟨⟨⟩, w₁⟩, hconfigured, hends⟩ := Option.bind_eq_some_iff.mp hends
  obtain ⟨⟨⟨⟩, w₂⟩, hstarted, hends⟩ := Option.bind_eq_some_iff.mp hends
  obtain ⟨⟨⟨⟩, w₃⟩, hstopped, hfacts⟩ := Option.map_eq_some_iff.mp hends
  exact ⟨w₁, w₂, w₃, hconfigured, hstarted, hstopped, of_decide_eq_true hfacts⟩

end Componentry

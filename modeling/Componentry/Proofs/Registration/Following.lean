import Componentry.Proofs.Ensemble.Assembly

/-!
# Registrations follow the state

Over a registry in memory the services of a component are registered exactly while the
component is valid, also when methods start, stop or flip the component in the middle of
a change of state.

A step either ends with the services registered as the state at its end says, or it
changes neither the state nor which services are registered. A change of state that is
superseded while it is told is of the first kind by what has superseded it; one that is
not reaches the provider.
-/

namespace Componentry

variable {σ α : Type}

/-- How often an event of a name was announced. -/
def Books.announced (books : Books) (name : String) : Nat :=
  books.events.countP fun event => event.name == name

/-- The books after another event. -/
def Books.announce (books : Books) (event : Event) : Books :=
  { books with events := books.events ++ [event] }

@[simp] theorem Books.announced_announce (books : Books) (event : Event) (name : String) :
    (books.announce event).announced name =
      books.announced name + if event.name = name then 1 else 0 := by
  simp only [announced, announce, List.countP_append, List.countP_singleton, beq_iff_eq]

/-- The services of the ensemble are registered exactly if the state is valid. -/
def Offered (e : Ensemble) (state : Validity) (w : World σ) : Prop :=
  ∀ s ∈ e.services, (w.service s).registration.isSome = true ↔ state = .valid

/-- The services of the ensemble are registered as the state of its component says. -/
def Followed (e : Ensemble) (w : World σ) : Prop := Offered e (w.component e.component).state w

/-- The registry is sound, and the events announce what it holds. -/
structure Audited (books : σ → Books) (others : List ServiceRecord) (e : Ensemble)
    (w : World σ) : Prop where
  sound : Sound books others e w
  balanced : (books w.surroundings).announced "service.registered" =
    (books w.surroundings).announced "service.unregistered" +
      (books w.surroundings).registry.records.length

/-- The regime of steps that change neither the state nor a service. -/
def still (books : σ → Books) (others : List ServiceRecord) (e : Ensemble) : Regime σ where
  holds := Audited books others e
  leads w w' := w'.service = w.service ∧
    (w'.component e.component).state = (w.component e.component).state
  refl _ := ⟨rfl, rfl⟩
  trans huv hvw := ⟨hvw.1.trans huv.1, hvw.2.trans huv.2⟩

/-- The services are registered as the state says, or neither the state nor what is
registered has changed. -/
def Tracks (e : Ensemble) (w w' : World σ) : Prop :=
  Followed e w' ∨
    (w'.component e.component).state = (w.component e.component).state ∧
      ∀ state, Offered e state w → Offered e state w'

/-- The regime of operations on an ensemble. -/
def following (books : σ → Books) (others : List ServiceRecord) (e : Ensemble) : Regime σ where
  holds := Audited books others e
  leads := Tracks e
  refl _ := .inr ⟨rfl, fun _ h => h⟩
  trans := by
    rintro u v w huv (hfollowed | ⟨hstate, hoffered⟩)
    · exact .inl hfollowed
    · -- The second step changes nothing that the first one has brought about.
      rcases huv with hfollowed | ⟨hbefore, hoffered'⟩
      · refine .inl ?_
        rw [Followed, hstate]
        exact hoffered _ hfollowed
      · exact .inr ⟨hstate.trans hbefore, fun state h => hoffered state (hoffered' state h)⟩

variable {books : σ → Books} {others : List ServiceRecord} {e : Ensemble} {w w' : World σ}

theorem Followed.of_tracks (hfollowed : Followed e w) (htracks : Tracks e w w') :
    Followed e w' := by
  rcases htracks with hfollowed' | ⟨hstate, hoffered⟩
  · exact hfollowed'
  · rw [Followed, hstate]
    exact hoffered _ hfollowed

/-- Nothing that the audit looks at has changed. -/
theorem Audited.of_unchanged (hw : Audited books others e w) (hstands : e.Stands w')
    (hservice : w'.service = w.service)
    (hregistry : (books w'.surroundings).registry = (books w.surroundings).registry)
    (hrefused : (books w'.surroundings).refused = (books w.surroundings).refused)
    (hregistered : (books w'.surroundings).announced "service.registered" =
      (books w.surroundings).announced "service.registered")
    (hunregistered : (books w'.surroundings).announced "service.unregistered" =
      (books w.surroundings).announced "service.unregistered") : Audited books others e w' := by
  refine ⟨hw.sound.of_service hstands hservice ?_, ?_⟩
  · rw [hregistry, hrefused]
    exact hw.sound.ledger
  · rw [hregistry, hregistered, hunregistered]
    exact hw.balanced

theorem Audited.of_idle (hw : Audited books others e w) (hidle : Idle books w w') :
    Audited books others e w' := by
  obtain ⟨hplatform, hbooks⟩ := hidle
  have hservice := (World.objects_of_platform hplatform).2.1
  apply hw.of_unchanged (hw.sound.stands.of_platform hplatform) hservice <;> rw [hbooks]

theorem still_of_idle (hidle : Idle books w w') : (still books others e).Allows w w' := by
  intro hw
  obtain ⟨hcomponent, hservice, -⟩ := World.objects_of_platform hidle.1
  exact ⟨hw.of_idle hidle, hservice, by rw [hcomponent]⟩

theorem following_of_still (hallows : (still books others e).Allows w w') :
    (following books others e).Allows w w' := by
  intro hw
  obtain ⟨hw', hservice, hstate⟩ := hallows hw
  refine ⟨hw', .inr ⟨hstate, ?_⟩⟩
  intro state hoffered s hs
  rw [hservice]
  exact hoffered s hs

section Layer

variable {callbacks : World σ → World σ → Prop} {out : Collaborators σ}
  (hout : InMemory books callbacks out)
include hout

/-- Announcing an event about something else than a registration. -/
theorem still_tell {event : Event} (hregistered : event.name ≠ "service.registered")
    (hunregistered : event.name ≠ "service.unregistered") :
    (still books others e).Keeps (out.tell event) := by
  intro w _
  rw [Run.ensures_tell]
  have hbooks : books (w.changeSurroundings (out.announce event)).surroundings =
      (books w.surroundings).announce event := hout.announce event w.surroundings
  intro hw
  refine ⟨hw.of_unchanged (hw.sound.stands.of_platform rfl) rfl ?_ ?_ ?_ ?_, rfl, rfl⟩
  · rw [hbooks, Books.announce]
  · rw [hbooks, Books.announce]
  · rw [hbooks, Books.announced_announce, if_neg hregistered, Nat.add_zero]
  · rw [hbooks, Books.announced_announce, if_neg hunregistered, Nat.add_zero]

theorem admits_still : (still books others e).Admits e out where
  stands hw := hw.sound.stands
  quiet hquiet hw := by
    refine ⟨hw.of_unchanged (hw.sound.stands.of_quiet hquiet) hquiet.service ?_ ?_ ?_ ?_,
      hquiet.service, hquiet.state _⟩ <;> rw [hquiet.surroundings]
  note record w _ := by
    rw [Run.ensures_note]
    exact still_of_idle ⟨rfl, hout.log record _⟩
  published _ _ := still_tell hout (by simp [Event.configurationPublished])
    (by simp [Event.configurationPublished])
  withdrawn _ _ := still_tell hout (by simp [Event.configurationWithdrawn])
    (by simp [Event.configurationWithdrawn])
  publish _ _ _ w _ := (hout.publish _ _ _ w).mono fun _ _ => still_of_idle
  withdraw _ w _ := (hout.withdraw _ w).mono fun _ _ => still_of_idle

theorem admits_following : (following books others e).Admits e out :=
  (admits_still hout).weaken (fun _ hw => hw) fun _ _ => following_of_still

end Layer

/-! ## Services -/

/-- A change of a service that leaves whether it is registered. -/
theorem following_of_replaced {s : Ref .service} {service : Service}
    (hserves : ∀ t, (books t).refused = false)
    (hreplaced : Replaced books others e s service w w') (hs : s ∈ e.services)
    (hsame : service.registration = (w.service s).registration) :
    (following books others e).Allows w w' := by
  intro hw
  have hlength := hreplaced.length hw.sound.toKept hs (hserves _)
  have hrecord : service.record?.toList.length = (w.service s).record?.toList.length := by
    rw [Service.record?, Service.record?, hsame]
    cases (w.service s).registration <;> rfl
  refine ⟨⟨hreplaced.sound hw.sound.stands, ?_⟩, .inr ⟨?_, ?_⟩⟩
  · have hbalanced := hw.balanced
    rw [Books.announced, Books.announced, hreplaced.unheard.events]
    rw [Books.announced, Books.announced] at hbalanced
    omega
  · rw [hreplaced.component_eq]
  · intro state hoffered t ht
    rw [hreplaced.service_eq]
    split
    next heq =>
      rw [hsame, ← heq]
      exact hoffered t ht
    next => exact hoffered t ht

section Services

variable {callbacks : World σ → World σ → Prop} {out : Collaborators σ}
  (hout : InMemory books callbacks out) (hserves : ∀ t, (books t).refused = false)
include hout hserves

theorem following_write {s : Ref .service} (hs : s ∈ e.services) (field : String)
    (value : Value) : (following books others e).Keeps (Service.write out s field value) := by
  intro w hw
  refine (ensures_write_prompt hout hw.sound.toKept hs field value).mono ?_
  intro _ w' hfollows
  apply hfollows.allows
  intro changed hchanged hreplaced
  exact following_of_replaced hserves hreplaced hs (Service.written?_eq_some hchanged).1.registration

theorem following_extend {s : Ref .service} (hs : s ∈ e.services) (entries : Properties) :
    (following books others e).Keeps (Service.extend out s entries) := by
  intro w hw
  refine (ensures_extend_prompt hout hw.sound.toKept hs entries).mono ?_
  intro _ w' hfollows
  apply hfollows.allows
  intro changed hchanged hreplaced
  exact following_of_replaced hserves hreplaced hs (Service.extended?_eq_some hchanged).1.registration

theorem following_reduce {s : Ref .service} (hs : s ∈ e.services) (entries : Properties) :
    (following books others e).Keeps (Service.reduce out s entries) := by
  intro w hw
  refine (ensures_reduce_prompt hout hw.sound.toKept hs entries).mono ?_
  intro _ w' hfollows
  apply hfollows.allows
  intro changed hchanged hreplaced
  exact following_of_replaced hserves hreplaced hs (Service.reduced?_eq_some hchanged).1.registration

/-- A change of a service that is logged and announced. -/
theorem audited_of_announced {s : Ref .service} {service : Service}
    (hw : Audited books others e w) (hs : s ∈ e.services)
    (hreplaced : Replaced books others e s service w w') (record : Log.Record) (event : Event)
    (hcount : service.record?.toList.length +
        (if event.name = "service.unregistered" then 1 else 0) =
      (w.service s).record?.toList.length +
        if event.name = "service.registered" then 1 else 0) :
    Audited books others e
      ((w'.changeSurroundings (out.log record)).changeSurroundings (out.announce event)) := by
  have hbooks : books (out.announce event (out.log record w'.surroundings)) =
      (books w'.surroundings).announce event := by
    rw [hout.announce, hout.log]
    rfl
  have hlength := hreplaced.length hw.sound.toKept hs (hserves _)
  have hbalanced := hw.balanced
  constructor
  · refine (hreplaced.sound hw.sound.stands).of_platform rfl ?_
    simp only [World.surroundings_changeSurroundings, hbooks]
    exact hreplaced.kept.ledger
  · simp only [World.surroundings_changeSurroundings, hbooks, Books.announced_announce]
    rw [show ((books w'.surroundings).announce event).registry = (books w'.surroundings).registry
      from rfl]
    simp only [Books.announced, hreplaced.unheard.events] at hbalanced ⊢
    omega

/-- Registering a service, whether it is registered already or not. -/
theorem ensures_registerService (className : String) {s : Ref .service} (hs : s ∈ e.services)
    (hw : Audited books others e w) :
    (Provider.registerService out className s).Ensures w fun _ w' =>
      Audited books others e w' ∧ w'.component = w.component ∧
        (w'.service s).registration.isSome = true ∧
        ∀ t, t ≠ s → w'.service t = w.service t := by
  simp only [Provider.registerService, Run.ensures_bind, Run.ensures_service]
  cases hheld : (w.service s).registration with
  | some handle =>
      simp only [Service.register, Run.ensures_bind, Run.ensures_service, hheld, Option.isSome_some,
        if_true, Run.ensures_pure]
      exact ⟨hw, trivial, trivial, fun _ _ => trivial⟩
  | none =>
      refine (ensures_register_prompt hout hw.sound.toKept hs hheld).mono ?_
      rintro answer u (⟨rfl, handle, hreplaced⟩ | ⟨-, hrefused, -⟩)
      · simp only [Run.ensures_bind, Run.ensures_note, Run.ensures_service, Run.ensures_tell]
        refine ⟨audited_of_announced hout hserves hw hs hreplaced _ _ ?_,
          hreplaced.component_eq, ?_, ?_⟩
        · simp [Service.record?, hheld, Event.serviceRegistered]
        · exact (congrArg (·.registration.isSome)
            ((hreplaced.service_eq s).trans (if_pos rfl))).trans rfl
        · intro t ht
          exact (hreplaced.service_eq t).trans (if_neg ht)
      · rw [hserves] at hrefused
        cases hrefused

/-- Taking back the registration of a service, if there is one. -/
theorem ensures_unregisterService (className : String) {s : Ref .service} (hs : s ∈ e.services)
    (hw : Audited books others e w) :
    (Provider.unregisterService out className s).Ensures w fun _ w' =>
      Audited books others e w' ∧ w'.component = w.component ∧
        (w'.service s).registration.isSome = false ∧
        ∀ t, t ≠ s → w'.service t = w.service t := by
  simp only [Provider.unregisterService, Run.ensures_bind, Run.ensures_service]
  cases hheld : (w.service s).registration with
  | none =>
      simp only [Service.unregister, Run.ensures_bind, Run.ensures_service, hheld, Run.ensures_pure]
      exact ⟨hw, trivial, rfl, fun _ _ => trivial⟩
  | some handle =>
      refine (ensures_unregister_prompt hout hw.sound.toKept hs hheld).mono ?_
      rintro answer w' ⟨hreplaced, rfl | ⟨-, hrefused⟩⟩
      · simp only [Run.ensures_bind, Run.ensures_note, Run.ensures_tell]
        refine ⟨audited_of_announced hout hserves hw hs hreplaced _ _ ?_,
          hreplaced.component_eq, ?_, ?_⟩
        · simp [Service.record?, hheld, Event.serviceUnregistered]
        · exact (congrArg (·.registration.isSome)
            ((hreplaced.service_eq s).trans (if_pos rfl))).trans rfl
        · intro t ht
          exact (hreplaced.service_eq t).trans (if_neg ht)
      · rw [hserves] at hrefused
        cases hrefused

omit hout hserves in
/-- What is done to every service in turn: each is registered in the end, or each is not. -/
theorem ensures_forM_services {f : Ref .service → Run σ Unit} {registered : Bool}
    (hf : ∀ s ∈ e.services, ∀ u, Audited books others e u → (f s).Ensures u fun _ u' =>
      Audited books others e u' ∧ u'.component = u.component ∧
        (u'.service s).registration.isSome = registered ∧
        ∀ t, t ≠ s → u'.service t = u.service t)
    (hw : Audited books others e w) :
    (e.services.forM f).Ensures w fun _ w' =>
      Audited books others e w' ∧ w'.component = w.component ∧
        ∀ s ∈ e.services, (w'.service s).registration.isSome = registered := by
  refine (Run.ensures_forM_reached
    (fun w' => Audited books others e w' ∧ w'.component = w.component)
    (fun s w' => (w'.service s).registration.isSome = registered) ?_ ⟨hw, rfl⟩).mono
    fun _ _ h => ⟨h.1.1, h.1.2, h.2⟩
  rintro s hs u ⟨hu, hcomponent⟩
  refine (hf s hs u hu).mono ?_
  rintro _ u' ⟨hu', hsame, hreached, hothers⟩
  refine ⟨⟨hu', hsame.trans hcomponent⟩, hreached, ?_⟩
  intro t _ hbefore
  by_cases ht : t = s
  · exact ht ▸ hreached
  · rw [hothers t ht]
    exact hbefore

theorem ensures_registerAll (hw : Audited books others e w) :
    (Provider.registerAll out e.provider e.component).Ensures w fun _ w' =>
      Audited books others e w' ∧ w'.component = w.component ∧ Offered e .valid w' := by
  simp only [Provider.registerAll, Run.ensures_bind, Run.ensures_component, Run.ensures_provider,
    hw.sound.stands.provider]
  refine (ensures_forM_services
    (fun s hs u hu => ensures_registerService hout hserves _ hs hu) hw).mono ?_
  rintro _ w' ⟨hw', hcomponent, hregistered⟩
  exact ⟨hw', hcomponent, fun s hs => ⟨fun _ => rfl, fun _ => hregistered s hs⟩⟩

theorem ensures_unregisterAll (hw : Audited books others e w) :
    (Provider.unregisterAll out e.provider e.component).Ensures w fun _ w' =>
      Audited books others e w' ∧ w'.component = w.component ∧ Offered e .invalid w' := by
  simp only [Provider.unregisterAll, Run.ensures_bind, Run.ensures_component,
    Run.ensures_provider, hw.sound.stands.provider]
  refine (ensures_forM_services
    (fun s hs u hu => ensures_unregisterService hout hserves _ hs hu) hw).mono ?_
  rintro _ w' ⟨hw', hcomponent, hunregistered⟩
  refine ⟨hw', hcomponent, fun s hs => ?_⟩
  rw [hunregistered s hs]
  simp

omit hserves in
/-- What the provider does while its component is held brings its services to a state. -/
theorem ensures_provider_alive {state : Validity} {m : Ref .component → Run σ Unit}
    (hw : Audited books others e w)
    (hm : ∀ u, Audited books others e u → (m e.component).Ensures u fun _ u' =>
      Audited books others e u' ∧ u'.component = u.component ∧ Offered e state u') :
    (Run.provider e.provider >>= fun provider => Run.whileAlive provider.component m).Ensures w
      fun _ w' => Audited books others e w' ∧
        (w'.component e.component).state = (w.component e.component).state ∧
        Offered e state w' := by
  have H : (still books others e).Admits e out := admits_still hout
  rw [Run.ensures_bind, Run.ensures_provider, hw.sound.stands.provider,
    Run.ensures_whileAlive_owned hw.sound.stands.owned]
  obtain ⟨hheld, -, hstate⟩ := H.slight (.hold w e.component) hw
  refine (hm _ hheld).mono ?_
  rintro _ u ⟨hu, hcomponent, hoffered⟩
  obtain ⟨hreleased, hservice, hstate'⟩ := H.slight (.release u e.component) hu
  refine ⟨hreleased, ?_, ?_⟩
  · rw [hstate', hcomponent, hstate]
  · intro s hs
    rw [hservice]
    exact hoffered s hs

theorem ensures_provider_stateChanged (state : Validity) (hw : Audited books others e w) :
    (Provider.stateChanged out e.provider state).Ensures w fun _ w' =>
      Audited books others e w' ∧
        (w'.component e.component).state = (w.component e.component).state ∧
        Offered e state w' := by
  refine ensures_provider_alive hout hw fun u hu => ?_
  cases state with
  | valid => exact ensures_registerAll hout hserves hu
  | invalid => exact ensures_unregisterAll hout hserves hu

theorem ensures_provider_stop (hw : Audited books others e w) :
    (Provider.stop out e.provider).Ensures w fun _ w' =>
      Audited books others e w' ∧
        (w'.component e.component).state = (w.component e.component).state ∧
        Offered e .invalid w' :=
  ensures_provider_alive hout hw fun _ hu => ensures_unregisterAll hout hserves hu

theorem following_provider_start :
    (following books others e).Keeps (Provider.start out e.provider) := by
  have H : (following books others e).Admits e out := admits_following hout
  refine H.provider_bind (H.tolerates.whileAlive fun component hcomponent => ?_)
  cases hcomponent
  intro w hw
  rw [Run.ensures_bind, Run.ensures_component]
  split
  next hvalid =>
    refine (ensures_registerAll hout hserves hw).mono ?_
    rintro _ w' ⟨hw', hcomponent, hoffered⟩ _
    refine ⟨hw', .inl ?_⟩
    rw [Followed, hcomponent, hvalid]
    exact hoffered
  next => exact (Run.ensures_pure _).mpr (.refl w)

end Services

/-! ## Changes of state -/

/-- A step that changes the state of the component but no service and nothing that the
audit looks at. -/
theorem Audited.changeState (hw : Audited books others e w) (state : Validity) :
    Audited books others e
      (w.changeComponent e.component fun c => { c with state := state }) := by
  exact hw.of_unchanged (hw.sound.stands.changeComponent (fun _ => rfl) fun _ => rfl) rfl rfl rfl
    rfl rfl

theorem following_heeds :
    (following books others e).Heeds e (.provider e.provider) (Followed e) where
  kept hfollowed htracks := hfollowed.of_tracks htracks
  changed htracks := htracks.imp_right And.left
  absent hw hnot s hs := by
    rw [hw.sound.stands.services_eq_nil hnot] at hs
    cases hs
  admitted state hw := hw.changeState state
  leads _ _ hfollowed := .inl hfollowed

section States

variable {callbacks : World σ → World σ → Prop} {out : Collaborators σ}
  (hout : InMemory books callbacks out) (hserves : ∀ t, (books t).refused = false)
include hout hserves

/-- A provider that is told of the state that its component has brings the services to
it. -/
theorem ensures_provider_told (state : Validity) (w : World σ) (hw : Audited books others e w)
    (hstate : (w.component e.component).state = state) :
    (Provider.stateChanged out e.provider state).Ensures w fun _ w' =>
      (following books others e).Allows w w' ∧ Followed e w' := by
  refine (ensures_provider_stateChanged hout hserves state hw).mono ?_
  rintro _ w' ⟨hw', hsame, hoffered⟩
  have hfollowed : Followed e w' := by
    rw [Followed, hsame, hstate]
    exact hoffered
  exact ⟨fun _ => ⟨hw', .inl hfollowed⟩, hfollowed⟩

/-- Handlers that are stopped: with the provider among them all registrations are taken
back, and the others touch no service. -/
theorem ensures_stop_handlers {handlers : List Handler}
    (hhandlers : ∀ handler ∈ handlers, handler ∈ e.handlers) (hw : Audited books others e w) :
    (handlers.forM fun handler => handler.stop out).Ensures w fun _ w' =>
      Audited books others e w' ∧
        (.provider e.provider ∈ handlers → Offered e .invalid w') := by
  have H : (still books others e).Admits e out := admits_still hout
  have hothers : ∀ handler ∈ handlers, handler ≠ .provider e.provider →
      (still books others e).Keeps (handler.stop out) := by
    intro handler hmem hother
    rcases Ensemble.mem_handlers.mp (hhandlers handler hmem) with rfl | rfl | rfl
    · exact absurd rfl hother
    · exact H.configurator_withdraw
    · exact H.tracked .invalid
  apply Run.ensures_forM_settled (Audited books others e)
  · intro _ u hu
    refine (ensures_provider_stop hout hserves hu).mono ?_
    rintro _ u' ⟨hu', -, hoffered⟩
    exact ⟨hu', hoffered⟩
  · intro handler hmem hother u hu
    refine (hothers handler hmem hother u hu).mono ?_
    intro _ u' hallows
    obtain ⟨hu', hservice, -⟩ := hallows hu
    refine ⟨hu', fun hoffered s hs => ?_⟩
    rw [hservice]
    exact hoffered s hs
  · exact hw

theorem following_stop :
    (following books others e).Keeps (Component.stop out e.component) := by
  refine (admits_following hout).tolerates.holding e.component ?_
  intro w hw
  simp only [Run.ensures_bind, Run.ensures_component, Run.ensures_changeComponent]
  have hstands := hw.sound.stands
  refine (ensures_stop_handlers hout hserves hstands.handlers hw).mono ?_
  rintro _ u ⟨hu, hstopped⟩
  have hoffered : Offered e .invalid u := by
    intro s hs
    exact hstopped (hstands.registered (List.ne_nil_of_mem hs)) s hs
  refine ((admits_still hout).note _ _ (hu.changeState .invalid)).mono ?_
  intro _ w' hnoted _
  obtain ⟨hw', hservice, hstate⟩ := hnoted (hu.changeState .invalid)
  refine ⟨hw', .inl ?_⟩
  have hinvalid : (w'.component e.component).state = .invalid := by
    rw [hstate]
    simp
  intro s hs
  rw [hinvalid, hservice]
  exact hoffered s hs

variable (hcallbacks : ∀ w w', callbacks w w' → (following books others e).Allows w w')
include hcallbacks

omit hserves in
theorem following_call (number : Nat) (component : Ref .component) :
    (following books others e).Keeps (out.call number component) := by
  intro w _
  refine (hout.call number component w).mono ?_
  intro _ w' hturn
  exact .of_turn (fun _ _ hidle => following_of_still (still_of_idle hidle)) hcallbacks hturn

theorem following_operation (operation : Ensemble.Operation) :
    (following books others e).Keeps (operation.run out e) := by
  have H : (following books others e).Admits e out := admits_following hout
  have K : (following books others e).Heeds e (.provider e.provider) (Followed e) :=
    following_heeds
  have hwrite : ∀ s ∈ e.services, ∀ field value,
      (following books others e).Keeps (Service.write out s field value) :=
    fun s hs field value => following_write hout hserves hs field value
  have hcall : ∀ number component,
      (following books others e).Keeps (out.call number component) :=
    following_call hout hcallbacks
  have htold := H.ensures_stateChanged (ensures_provider_told hout hserves) hcall
  have htell : ∀ className transition,
      (following books others e).Keeps (out.tell (.stateChanged className transition)) := by
    intro className transition
    exact (still_tell hout (by simp [Event.stateChanged]) (by simp [Event.stateChanged])).weaken
      (fun _ hw => hw) fun _ _ => following_of_still
  cases operation with
  | start =>
      exact H.component_start K htold htell (following_provider_start hout hserves)
  | stop => exact following_stop hout hserves
  | checkValidity => exact H.component_checkValidity K htold htell
  | setState state => exact H.component_setState K htold htell state
  | setField field value => exact H.tolerates.component_setField hwrite field value
  | update configuration =>
      refine H.tolerates.configurator_updated hwrite (H.tolerates.configurator_propagate
        (fun s hs entries => following_extend hout hserves hs entries)
        (fun s hs entries => following_reduce hout hserves hs entries) ?_) configuration
      intro entries w hw
      rw [Run.ensures_changeConfigurator]
      refine following_of_still fun hw => ⟨?_, rfl, rfl⟩
      exact hw.of_unchanged (hw.sound.stands.changeConfigurator (fun _ => rfl) fun _ => rfl) rfl
        rfl rfl rfl rfl

end States

theorem following_operates {out : Collaborators σ} (hserves : ∀ t, (books t).refused = false)
    (hout : Layered e.Operates (InMemory books) out) (hoperates : e.Operates out w w') :
    (following books others e).Allows w w' := by
  apply hout.operates_allowed _ hoperates
  intro callbacks out hcallbacks hrule
  exact following_operation hrule hserves hcallbacks

/-- From a world where the services are registered as the state says, operations lead to
worlds where they are, however deep they are nested in the calls of methods. -/
theorem followed_of_turn {out : Collaborators σ} (hserves : ∀ t, (books t).refused = false)
    (hout : Layered e.Operates (InMemory books) out) (hw : Audited books others e w)
    (hfollowed : Followed e w) (hturn : Turn (Idle books) (e.Operates out) w w') :
    Audited books others e w' ∧ Followed e w' := by
  have hallows : (following books others e).Allows w w' :=
    .of_turn (fun _ _ hidle => following_of_still (still_of_idle hidle))
      (fun _ _ => following_operates hserves hout) hturn
  obtain ⟨hw', htracks⟩ := hallows hw
  exact ⟨hw', hfollowed.of_tracks htracks⟩

/-- A component that was configured once starts with nothing registered. -/
theorem audited_of_new {out : Collaborators σ} {w₀ : World σ}
    (hlog : ∀ record t, books (out.log record t) = books t) (hassembled : e.Assembled out w₀ w)
    (hothers : (books w₀.surroundings).registry.Holds others)
    (hbalanced : (books w₀.surroundings).announced "service.registered" =
      (books w₀.surroundings).announced "service.unregistered" + others.length) :
    Audited books others e w ∧ Followed e w := by
  obtain ⟨hnew, hbooks⟩ := hassembled.new hlog
  refine ⟨⟨hnew.sound (hbooks ▸ hothers), ?_⟩, ?_⟩
  · rw [hbooks, hothers.perm.length_eq]
    exact hbalanced
  · intro s hs
    rw [(hnew.fresh s hs).unregistered, hnew.invalid]
    simp

/-- The registrations of a component follow its state over a registry in memory, after
any operations, whose methods may run operations themselves, to any depth, and may fail
in any way. While the component is valid each of its services is registered, and the
registry holds one record for each of them, beside those of others; while it is invalid
it holds only those of others. Registrations and their ends are announced as they
happen. -/
theorem registrations_follow_state {out : Collaborators σ} {w₀ w₁ w₂ : World σ}
    (hserves : ∀ t, (books t).refused = false)
    (hout : Layered e.Operates (InMemory books) out) (hassembled : e.Assembled out w₀ w₁)
    (hothers : (books w₀.surroundings).registry.Holds others)
    (hbalanced : (books w₀.surroundings).announced "service.registered" =
      (books w₀.surroundings).announced "service.unregistered" + others.length)
    (hturn : Turn (Idle books) (e.Operates out) w₁ w₂) :
    ((w₂.component e.component).state = .valid →
      (∀ s ∈ (w₂.provider e.provider).services, (w₂.service s).registration.isSome = true) ∧
        (books w₂.surroundings).registry.Holds
          (others ++ (w₂.provider e.provider).services.filterMap fun s =>
            (w₂.service s).record?)) ∧
    ((w₂.component e.component).state = .invalid →
      (books w₂.surroundings).registry.Holds others) ∧
    (books w₂.surroundings).announced "service.registered" =
      (books w₂.surroundings).announced "service.unregistered" +
        (books w₂.surroundings).registry.records.length := by
  obtain ⟨callbacks, hrule⟩ := hout.exists_rule
  obtain ⟨hstart, hfollowed⟩ := audited_of_new hrule.log hassembled hothers hbalanced
  obtain ⟨hend, hfollowed⟩ := followed_of_turn hserves hout hstart hfollowed hturn
  have hledger := hend.sound.ledger (hserves _)
  rw [hend.sound.stands.provider]
  refine ⟨fun hvalid => ⟨fun s hs => (hfollowed s hs).mpr hvalid, hledger⟩, fun hinvalid => ?_,
    hend.balanced⟩
  rw [Ensemble.records_of_unregistered] at hledger
  · exact hledger
  · intro s hs
    rw [← Option.not_isSome_iff_eq_none, hfollowed s hs, hinvalid]
    simp

/-! ## A component that flips -/

/-- A registry and the announced events. -/
structure Desk where
  registry : Registry
  events : List Event

namespace Desk

/-- The books of a desk. Its registry refuses nothing. -/
def accounts (desk : Desk) : Books := ⟨desk.registry, desk.events, false, none⟩

/-- The collaborators of a desk, with the bodies of methods. -/
def collaborators (method : Run Desk Ending) : Collaborators Desk :=
  .inMemory registry (fun after desk => { desk with registry := after })
    (fun event desk => { desk with events := desk.events ++ [event] }) fun _ => method

theorem layered_returning (e : Ensemble) :
    Layered e.Operates (InMemory accounts) (collaborators (return .returned)) :=
  .bottom (inMemory_of_method (fun _ => rfl) (fun _ _ => rfl) (fun _ _ => rfl) fun _ _ =>
    (Run.ensures_pure _).mpr .refl)

theorem layered_performing {e : Ensemble} {below : Collaborators Desk}
    (hbelow : Layered e.Operates (InMemory accounts) below)
    (operations : List Ensemble.Operation) (ending : Ending) :
    Layered e.Operates (InMemory accounts) (collaborators (e.performing below operations ending)) :=
  .above hbelow (inMemory_of_method (fun _ => rfl) (fun _ _ => rfl) (fun _ _ => rfl) fun _ =>
    e.turn_performing below operations ending)

/-- The method stops the component while it becomes valid, starts it again, and breaks
off. -/
def flipping : Collaborators Desk :=
  collaborators (Ensemble.clock.performing (collaborators (return .returned)) [.stop, .start]
    (.panicked none))

end Desk

/-- The clock is configured, the provider before the caller, and started. The start
within its start leaves it valid with one record, the second one that was made. -/
theorem registrations_follow_state_flipping :
    ∃ w₁ w₂ : World Desk,
      (Component.configure Desk.flipping ⟨0⟩
        [.configurator ⟨0⟩, .provider ⟨0⟩, .caller ⟨0⟩] .empty).run (.clock ⟨.empty, []⟩) =
          some ((), w₁) ∧
      (Component.start Desk.flipping ⟨0⟩).run w₁ = some ((), w₂) ∧
      (w₂.component ⟨0⟩).state = .valid ∧ w₂.surroundings.registry.registrations = 2 ∧
      w₂.surroundings.registry.Holds
        ((w₂.provider ⟨0⟩).services.filterMap fun s => (w₂.service s).record?) ∧
      w₂.surroundings.accounts.announced "service.registered" =
        w₂.surroundings.accounts.announced "service.unregistered" +
          w₂.surroundings.registry.records.length := by
  have hends : ((Component.configure Desk.flipping ⟨0⟩
      [.configurator ⟨0⟩, .provider ⟨0⟩, .caller ⟨0⟩] .empty).run (.clock ⟨.empty, []⟩)).bind
        (fun first => ((Component.start Desk.flipping ⟨0⟩).run first.2).map fun second =>
          decide ((first.2.provider ⟨0⟩).services = [⟨0⟩] ∧
            (first.2.configurator ⟨0⟩).properties = [⟨0⟩] ∧
            (second.2.component ⟨0⟩).state = .valid ∧
            second.2.surroundings.registry.registrations = 2)) = some true := by
    decide +kernel
  obtain ⟨⟨⟨⟩, w₁⟩, hconfigured, hends⟩ := Option.bind_eq_some_iff.mp hends
  obtain ⟨⟨⟨⟩, w₂⟩, hstarted, hfacts⟩ := Option.map_eq_some_iff.mp hends
  obtain ⟨hservices, hproperties, hvalid, hcount⟩ := of_decide_eq_true hfacts
  obtain ⟨hoffered, -, hbalanced⟩ := registrations_follow_state (fun _ => rfl)
    (Desk.layered_performing (Desk.layered_returning Ensemble.clock) [.stop, .start]
      (.panicked none))
    (Ensemble.assembled_clock (.swap _ _ _) hconfigured hservices hproperties)
    ⟨.refl [], .nil, Registry.numbered_empty⟩ rfl (.single (.inr ⟨.start, hstarted⟩))
  exact ⟨w₁, w₂, hconfigured, hstarted, hvalid, hcount, (hoffered hvalid).2, hbalanced⟩

end Componentry

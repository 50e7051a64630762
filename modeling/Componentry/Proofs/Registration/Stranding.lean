import Componentry.Proofs.Endpoint.Publishing
import Componentry.Proofs.Service.Pushing

/-!
# Stranded handles

A service gives up its handle before the registry is asked to take it back, and a
configurator its publication before the host is asked to withdraw it. If that call fails
the handle is stranded: nothing holds it, and what was made under it stays.

No handle is lost in another way. Whichever calls fail, the handles that a registry and a
host know beside those of others are the ones that are held and the ones that are stranded,
each once. The books are kept by permutation: a call that makes or takes back a handle
changes both sides, and one that fails moves a handle at most.
-/

namespace Componentry

variable {σ α κ η : Type}

/-! ## Handles -/

/-- The live handles are those that are owned, each once, and none is still to be made. -/
structure Balanced (number : η → Nat) (live : List η) (made : Nat) (owned : List η) : Prop where
  perm : live.Perm owned
  distinct : live.Nodup
  numbered : ∀ handle ∈ live, number handle ≤ made

namespace Balanced

variable {number : η → Nat} {live owned rest : List η} {made : Nat} {handle : η}

theorem of_perm (h : Balanced number live made owned) (hperm : owned.Perm rest) :
    Balanced number live made rest :=
  ⟨h.perm.trans hperm, h.distinct, h.numbered⟩

/-- A handle that is made is live and owned. -/
theorem make (h : Balanced number live made owned) (hnumber : number handle = made + 1) :
    Balanced number (live ++ [handle]) (made + 1) (handle :: owned) := by
  have hperm : (live ++ [handle]).Perm (handle :: live) := List.perm_append_singleton handle live
  have hnew : handle ∉ live := by
    intro hmem
    have hle := h.numbered handle hmem
    omega
  constructor
  · exact hperm.trans (h.perm.cons handle)
  · exact hperm.nodup_iff.mpr (List.nodup_cons.mpr ⟨hnew, h.distinct⟩)
  · intro other hmem
    rcases List.mem_cons.mp (hperm.mem_iff.mp hmem) with rfl | hold
    · omega
    · exact Nat.le_succ_of_le (h.numbered other hold)

/-- A handle that is taken back is neither live nor owned any more. -/
theorem release [DecidableEq η] (h : Balanced number live made (handle :: rest)) :
    Balanced number (live.filter (· != handle)) made rest := by
  have hdistinct := List.nodup_cons.mp (h.perm.nodup_iff.mp h.distinct)
  have hkept : rest.filter (· != handle) = rest := by
    apply List.filter_eq_self.mpr
    intro other hother
    apply bne_iff_ne.mpr
    intro heq
    exact hdistinct.1 (heq ▸ hother)
  constructor
  · have hperm := h.perm.filter (· != handle)
    rwa [List.filter_cons_of_neg (by simp), hkept] at hperm
  · exact h.distinct.filter _
  · intro other hmem
    exact h.numbered other (List.mem_filter.mp hmem).1

end Balanced

namespace Registry

/-- The handles of the records. -/
def handles (registry : Registry) : List Registration := registry.records.map ServiceRecord.handle

variable {registry after : Registry} {handle : Registration}

theorem number_le_of_mem_handles (hnumbered : registry.Numbered) :
    ∀ handle ∈ registry.handles, handle.number ≤ registry.registrations := by
  intro handle hmem
  obtain ⟨record, hrecord, rfl⟩ := List.mem_map.mp hmem
  exact hnumbered record hrecord

theorem handles_register {specifications : List String} {properties : Properties}
    {factory : FactoryPolicy}
    (hregister : registry.register specifications properties factory = .ok (handle, after)) :
    after.handles = registry.handles ++ [handle] := by
  rw [handles, (register_ok hregister).2.1]
  simp [handles]

theorem handles_unregister (hunregister : registry.unregister handle = .ok after) :
    after.handles = registry.handles.filter (· != handle) := by
  rw [handles, handles, (unregister_ok hunregister).2.1, List.filter_map]
  rfl

theorem handles_update {properties : Properties}
    (hupdate : registry.update handle properties = .ok after) :
    after.handles = registry.handles := by
  rw [handles, handles, (update_ok hupdate).2.1, List.map_map]
  apply List.map_congr_left
  intro record _
  simp only [Function.comp_apply]
  split <;> rfl

end Registry

namespace Host

variable {τ : Type} {host after : Host τ} {handle : Publication}

/-- The handles of the endpoints. -/
def handles (host : Host τ) : List Publication := host.endpoints.map Endpoint.handle

theorem number_le_of_mem_handles (horderly : host.Orderly) :
    ∀ handle ∈ host.handles, handle.number ≤ host.published := by
  intro handle hmem
  obtain ⟨endpoint, hendpoint, rfl⟩ := List.mem_map.mp hmem
  exact horderly.numbered endpoint hendpoint

theorem handles_publish {identity : String} {properties : Properties} {target : τ}
    (hask : host.askPublish identity properties target = .ok (handle, after)) :
    after.handles = host.handles ++ [handle] ∧ after.published = host.published + 1 ∧
      handle.number = host.published + 1 := by
  cases hask
  simp [handles]

theorem handles_withdraw (hask : host.askWithdraw handle = .ok ((), after)) :
    after.handles = host.handles.filter (· != handle) ∧ after.published = host.published := by
  unfold askWithdraw Host.withdraw at hask
  split at hask
  · cases hask
    rw [handles, handles, List.filter_map]
    exact ⟨rfl, rfl⟩
  · cases hask

end Host

/-! ## Calls that may fail -/

/-- A keeper of what is made under handles, and the handles that it has not taken back when
it was asked to. -/
structure Custody (κ η : Type) where
  keeper : κ
  stranded : List η

/-- A call that is served by the keeper, or fails. The keeper stays as it is if the call
fails, and the handle that it was to take back is stranded. -/
inductive Attempt (custody : σ → Custody κ η) (ask : κ → Except Failure (α × κ))
    (lost : List η) (w w' : World σ) : Except Failure α → Prop
  | served {a : α} {after : κ} (hask : ask (custody w.surroundings).keeper = .ok (a, after))
      (hcustody : custody w'.surroundings = { custody w.surroundings with keeper := after }) :
      Attempt custody ask lost w w' (.ok a)
  | failed {failure : Failure}
      (hcustody : custody w'.surroundings =
        { custody w.surroundings with stranded := lost ++ (custody w.surroundings).stranded }) :
      Attempt custody ask lost w w' (.error failure)

/-- Collaborators any of whose calls may fail, and that call nobody back but from methods. -/
structure Failing (records : σ → Custody Registry Registration)
    (endpoints : σ → Custody (Host Target) Publication) (callbacks : World σ → World σ → Prop)
    (out : Collaborators σ) : Prop where
  log : ∀ record t,
    records (out.log record t) = records t ∧ endpoints (out.log record t) = endpoints t
  announce : ∀ event t,
    records (out.announce event t) = records t ∧ endpoints (out.announce event t) = endpoints t
  register : ∀ specifications properties factory w,
    (out.register specifications properties factory).Ensures w fun answer w' =>
      Idle endpoints w w' ∧
        Attempt records (·.register specifications properties factory) [] w w' answer
  unregister : ∀ handle w, (out.unregister handle).Ensures w fun answer w' =>
    Idle endpoints w w' ∧ Attempt records (·.askUnregister handle) [handle] w w' answer
  update : ∀ handle properties w, (out.update handle properties).Ensures w fun answer w' =>
    Idle endpoints w w' ∧ Attempt records (·.askUpdate handle properties) [] w w' answer
  publish : ∀ identity properties target w,
    (out.publish identity properties target).Ensures w fun answer w' =>
      Idle records w w' ∧
        Attempt endpoints (·.askPublish identity properties target) [] w w' answer
  withdraw : ∀ handle w, (out.withdraw handle).Ensures w fun answer w' =>
    Idle records w w' ∧ Attempt endpoints (·.askWithdraw handle) [handle] w w' answer
  call : ∀ number component w, (out.call number component).Ensures w fun _ =>
    Turn (Idle fun t => (records t, endpoints t)) callbacks w

/-! ## Registrations -/

/-- The handles that the services of an ensemble hold. -/
def Ensemble.held (e : Ensemble) (w : World σ) : List Registration :=
  e.services.filterMap fun s => (w.service s).registration

/-- When one service comes to hold another handle, or none, the handles that are held change
by that. -/
theorem Ensemble.held_perm {e : Ensemble} {w w' : World σ} {s : Ref .service}
    (hdistinct : e.services.Nodup) (hs : s ∈ e.services)
    (hothers : ∀ t, t ≠ s → (w'.service t).registration = (w.service t).registration) :
    ((w.service s).registration.toList ++ e.held w').Perm
      ((w'.service s).registration.toList ++ e.held w) := by
  have hbeside : (e.services.erase s).filterMap (fun t => (w'.service t).registration) =
      (e.services.erase s).filterMap fun t => (w.service t).registration := by
    apply List.filterMap_congr
    intro t ht
    exact hothers t (hdistinct.mem_erase_iff.mp ht).1
  have hafter := filterMap_perm_erase (fun t => (w'.service t).registration) hs
  have hbefore := filterMap_perm_erase (fun t => (w.service t).registration) hs
  rw [hbeside] at hafter
  apply (hafter.append_left _).trans
  apply (List.perm_append_comm_assoc _ _ _).trans
  exact hbefore.symm.append_left _

/-- The ensemble stands, and the handles that the registry knows are those that its services
hold, those that are stranded and those of others. -/
structure Reckoned (records : σ → Custody Registry Registration) (others : List Registration)
    (e : Ensemble) (w : World σ) : Prop where
  stands : e.Stands w
  distinct : e.services.Nodup
  balanced : Balanced Registration.number (records w.surroundings).keeper.handles
    (records w.surroundings).keeper.registrations
    (e.held w ++ ((records w.surroundings).stranded ++ others))

/-- The regime of reckoned registrations. -/
def reckoning (records : σ → Custody Registry Registration) (others : List Registration)
    (e : Ensemble) : Regime σ where
  holds := Reckoned records others e
  leads _ _ := True
  refl _ := trivial
  trans _ _ := trivial

section Registrations

variable {records : σ → Custody Registry Registration} {others : List Registration}
  {e : Ensemble} {w w' : World σ} {s : Ref .service}

/-- Nothing has changed that a registration is about. -/
theorem reckoning_of_unchanged (hstands : e.Stands w → e.Stands w')
    (hheld : ∀ t, (w'.service t).registration = (w.service t).registration)
    (hrecords : records w'.surroundings = records w.surroundings) :
    (reckoning records others e).Allows w w' := by
  intro hw
  refine ⟨⟨hstands hw.stands, hw.distinct, ?_⟩, trivial⟩
  have hsame : e.held w' = e.held w := by simp only [Ensemble.held, hheld]
  rw [hsame, hrecords]
  exact hw.balanced

theorem reckoning_of_idle (hidle : Idle records w w') :
    (reckoning records others e).Allows w w' := by
  apply reckoning_of_unchanged (fun hstands => hstands.of_platform hidle.1) _ hidle.2
  intro t
  rw [(World.objects_of_platform hidle.1).2.1]

theorem reckoning_of_quiet (hquiet : Quiet w w') :
    (reckoning records others e).Allows w w' := by
  apply reckoning_of_unchanged fun hstands => hstands.of_quiet hquiet
  · simp [hquiet.service]
  · rw [hquiet.surroundings]

theorem reckoning_revised {changed : Service} (hrevised : (w.service s).Revised changed) :
    (reckoning records others e).Allows w (w.setService s changed) := by
  apply reckoning_of_unchanged (fun hstands => hstands.of_setService rfl) _ rfl
  intro t
  by_cases hts : t = s
  · simp [hts, hrevised.registration]
  · simp [hts]

/-- A service has come to hold another handle, or none. -/
theorem Reckoned.setRegistration {u : World σ} {service : Service} (hw : Reckoned records others e w)
    (hs : s ∈ e.services) (hplatform : u.platform = (w.setService s service).platform)
    (hbalanced : ∀ held, ((w.service s).registration.toList ++ held).Perm
        (service.registration.toList ++ e.held w) →
      Balanced Registration.number (records u.surroundings).keeper.handles
        (records u.surroundings).keeper.registrations
        (held ++ ((records u.surroundings).stranded ++ others))) :
    Reckoned records others e u := by
  refine ⟨hw.stands.of_setService hplatform, hw.distinct, hbalanced _ ?_⟩
  have hservice : ∀ t, u.service t = if t = s then service else w.service t := by
    intro t
    rw [(World.objects_of_platform hplatform).2.1, World.service_setService]
  have hothers : ∀ t, t ≠ s → (u.service t).registration = (w.service t).registration := by
    intro t ht
    rw [hservice, if_neg ht]
  have hperm := Ensemble.held_perm hw.distinct hs hothers
  rwa [hservice, if_pos rfl] at hperm

variable {endpoints : σ → Custody (Host Target) Publication}
  {callbacks : World σ → World σ → Prop} {out : Collaborators σ}
  (hout : Failing records endpoints callbacks out)
include hout

theorem reckoning_update (handle : Registration) (properties : Properties) :
    (reckoning records others e).Keeps (out.update handle properties) := by
  intro w _
  refine (hout.update handle properties w).mono ?_
  rintro answer w' ⟨hidle, hattempt⟩ hw
  refine ⟨⟨hw.stands.of_platform hidle.1, hw.distinct, ?_⟩, trivial⟩
  have hsame : e.held w' = e.held w := by
    rw [Ensemble.held, (World.objects_of_platform hidle.1).2.1]
    rfl
  have hbalanced := hw.balanced
  cases hattempt with
  | failed hcustody =>
      rw [hsame, hcustody]
      exact hbalanced
  | served hask hcustody =>
      have hupdate := Registry.askUpdate_ok hask
      rw [← Registry.handles_update hupdate, ← (Registry.update_ok hupdate).2.2] at hbalanced
      rw [hsame, hcustody]
      exact hbalanced

/-- A handle that the registry has made is held by the service that has asked for it. -/
theorem reckoning_register (hs : s ∈ e.services) :
    (reckoning records others e).Keeps (Service.register out s) := by
  intro w hw
  simp only [Service.register, Run.ensures_bind, Run.ensures_service]
  split
  next => exact (Run.ensures_pure _).mpr (.refl w)
  next hfree =>
    have hfree : (w.service s).registration = none := by simpa using hfree
    refine (Run.ensures_bind _ _).mpr ((hout.register _ _ _ w).mono ?_)
    rintro answer w' ⟨hidle, hattempt⟩
    cases hattempt with
    | failed hcustody => exact (Run.ensures_pure _).mpr (reckoning_of_idle ⟨hidle.1, hcustody⟩)
    | @served handle after hask hcustody =>
        simp only [Run.ensures_bind, Run.ensures_service, Run.ensures_setService]
        have hservice : w'.service s = w.service s := by
          rw [(World.objects_of_platform hidle.1).2.1]
        have hregistered : (reckoning records others e).Allows w
            (w'.setService s { w'.service s with registration := some handle }) := by
          intro hw
          refine ⟨hw.setRegistration hs (World.setService_platform hidle.1 s _) ?_, trivial⟩
          intro held hperm
          rw [hfree] at hperm
          have hmade := hw.balanced.make (Registry.number_of_register hask)
          rw [← Registry.handles_register hask, ← (Registry.register_ok hask).2.2] at hmade
          rw [World.setService_frame _ _ _ |>.1, hcustody]
          exact hmade.of_perm ((hperm.symm).append_right _)
        refine (hregistered.then hw (Regime.keeps_push (reckoning_update hout) _ _)).mono ?_
        intro answer v hallows
        exact (Run.ensures_pure _).mpr hallows

/-- A handle that is given up is taken back or stranded. -/
theorem reckoning_unregister (hs : s ∈ e.services) :
    (reckoning records others e).Keeps (Service.unregister out s) := by
  intro w hw
  simp only [Service.unregister, Run.ensures_bind, Run.ensures_service]
  split
  next => exact (Run.ensures_pure _).mpr (.refl w)
  next handle hheld =>
    simp only [Run.ensures_bind, Run.ensures_setService, Run.ensures_pure]
    refine (hout.unregister handle _).mono ?_
    rintro answer w' ⟨hidle, hattempt⟩ hw
    refine ⟨hw.setRegistration hs hidle.1 ?_, trivial⟩
    intro held hperm
    rw [hheld] at hperm
    have hbalanced := hw.balanced
    cases hattempt with
    | @served _ after hask hcustody =>
        have hunregister : (records w.surroundings).keeper.unregister handle = .ok after :=
          Registry.askUnregister_ok hask
        have htaken := (hbalanced.of_perm (hperm.symm.append_right _)).release
        rw [← Registry.handles_unregister hunregister, ← (Registry.unregister_ok hunregister).2.2]
          at htaken
        rw [hcustody]
        exact htaken
    | failed hcustody =>
        rw [hcustody]
        apply hbalanced.of_perm
        apply (hperm.symm.append_right _).trans
        exact List.perm_middle.symm

theorem admits_reckoning : (reckoning records others e).Admits e out where
  stands hw := hw.stands
  quiet := reckoning_of_quiet
  note record w _ := by
    rw [Run.ensures_note]
    exact reckoning_of_idle ⟨rfl, (hout.log record _).1⟩
  published _ _ w _ := by
    rw [Run.ensures_tell]
    exact reckoning_of_idle ⟨rfl, (hout.announce _ _).1⟩
  withdrawn _ _ w _ := by
    rw [Run.ensures_tell]
    exact reckoning_of_idle ⟨rfl, (hout.announce _ _).1⟩
  publish _ _ _ w _ := (hout.publish _ _ _ w).mono fun _ _ h => reckoning_of_idle h.1
  withdraw _ w _ := (hout.withdraw _ w).mono fun _ _ h => reckoning_of_idle h.1

theorem tends_reckoning (hcallbacks : ∀ w w', callbacks w w' →
    (reckoning records others e).Allows w w') : (reckoning records others e).Tends e out := by
  have H : (reckoning records others e).Admits e out := admits_reckoning hout
  have hupdate : ∀ handle properties,
      (reckoning records others e).Keeps (out.update handle properties) := reckoning_update hout
  have hrevised : ∀ {s : Ref .service} {w : World σ} {changed}, (reckoning records others e).holds w →
      (w.service s).Revised changed →
      (reckoning records others e).Allows w (w.setService s changed) :=
    fun _ hrevised => reckoning_revised hrevised
  exact
    { H.tolerates with
      state := fun state w _ => by
        rw [Run.ensures_changeComponent]
        exact reckoning_of_unchanged
          (fun hstands => hstands.changeComponent (fun _ => rfl) fun _ => rfl) (fun _ => rfl) rfl
      tracked := H.tracked
      tell := fun event w _ => by
        rw [Run.ensures_tell]
        exact reckoning_of_idle ⟨rfl, (hout.announce event _).1⟩
      call := fun number component w _ => (hout.call number component w).mono fun _ _ hturn =>
        .of_turn (fun _ _ hidle => reckoning_of_idle ⟨hidle.1, congrArg Prod.fst hidle.2⟩)
          hcallbacks hturn
      publish := H.configurator_publish
      withdraw := H.configurator_withdraw
      register := fun s hs => reckoning_register hout hs
      unregister := fun s hs => reckoning_unregister hout hs
      write := fun s _ => Regime.keeps_write hupdate fun hw h _ => hrevised hw h
      propagate := H.tolerates.configurator_propagate (fun s _ => Regime.keeps_extend hupdate hrevised)
        (fun s _ => Regime.keeps_reduce hupdate hrevised) fun entries w _ => by
          rw [Run.ensures_changeConfigurator]
          exact reckoning_of_unchanged
            (fun hstands => hstands.changeConfigurator (fun _ => rfl) fun _ => rfl)
            (fun _ => rfl) rfl }

end Registrations

/-! ## Publications -/

/-- The ensemble stands, its configurator has recorded a publication or none, and the
handles that the host knows are its own, those that are stranded and those of others. What
is recorded and what is its own may differ while the host is being called. -/
structure Lodged (endpoints : σ → Custody (Host Target) Publication) (others : List Publication)
    (e : Ensemble) (own recorded : Option Publication) (w : World σ) : Prop where
  stands : e.Stands w
  recorded : (w.configurator e.configurator).publication = recorded
  balanced : Balanced Publication.number (endpoints w.surroundings).keeper.handles
    (endpoints w.surroundings).keeper.published
    (own.toList ++ ((endpoints w.surroundings).stranded ++ others))

/-- The regime of steps that do not publish. -/
def lodging (endpoints : σ → Custody (Host Target) Publication) (others : List Publication)
    (e : Ensemble) (own recorded : Option Publication) : Regime σ where
  holds := Lodged endpoints others e own recorded
  leads _ _ := True
  refl _ := trivial
  trans _ _ := trivial

/-- The regime of publications that are recorded. -/
def recording (endpoints : σ → Custody (Host Target) Publication) (others : List Publication)
    (e : Ensemble) : Regime σ where
  holds w := ∃ own, Lodged endpoints others e own own w
  leads _ _ := True
  refl _ := trivial
  trans _ _ := trivial

section Publications

variable {endpoints : σ → Custody (Host Target) Publication} {others : List Publication}
  {e : Ensemble} {own recorded : Option Publication} {w w' : World σ}

theorem Lodged.of_unchanged (hw : Lodged endpoints others e own recorded w)
    (hstands : e.Stands w')
    (hpublication : (w'.configurator e.configurator).publication =
      (w.configurator e.configurator).publication)
    (hendpoints : endpoints w'.surroundings = endpoints w.surroundings) :
    Lodged endpoints others e own recorded w' :=
  ⟨hstands, hpublication.trans hw.recorded, hendpoints ▸ hw.balanced⟩

theorem lodging_of_slight (h : Slight w w') :
    (lodging endpoints others e own recorded).Allows w w' := by
  intro hw
  refine ⟨hw.of_unchanged (hw.stands.of_quiet h.quiet) ?_ ?_, trivial⟩
  · rw [h.configurator]
  · rw [h.surroundings]

theorem lodging_of_aside (h : Aside endpoints w w') :
    (lodging endpoints others e own recorded).Allows w w' := by
  intro hw
  refine ⟨hw.of_unchanged (hw.stands.of_aside h) ?_ h.surroundings, trivial⟩
  rw [h.configurator]

theorem Lodged.record (hw : Lodged endpoints others e own recorded w)
    (publication : Option Publication) :
    Lodged endpoints others e own publication
      (w.changeConfigurator e.configurator fun c => { c with publication := publication }) where
  stands := hw.stands.changeConfigurator (fun _ => rfl) fun _ => rfl
  recorded := by simp
  balanced := hw.balanced

theorem recording_of_lodging
    (h : ∀ own, (lodging endpoints others e own own).Allows w w') :
    (recording endpoints others e).Allows w w' := by
  intro ⟨own, hw⟩
  exact ⟨⟨own, (h own hw).1⟩, trivial⟩

variable {records : σ → Custody Registry Registration}
  {callbacks : World σ → World σ → Prop} {out : Collaborators σ}
  (hout : Failing records endpoints callbacks out)
include hout

theorem Failing.discreet : Discreet endpoints out where
  log record t := (hout.log record t).2
  announce event t := (hout.announce event t).2
  register _ _ _ w := (hout.register _ _ _ w).mono fun _ _ h => h.1
  unregister _ w := (hout.unregister _ w).mono fun _ _ h => h.1
  update _ _ w := (hout.update _ _ w).mono fun _ _ h => h.1

theorem lodging_note (record : Log.Record) :
    (lodging endpoints others e own recorded).Keeps (out.note record) :=
  Regime.keeps_note_aside hout.discreet lodging_of_aside record

theorem lodging_tell (event : Event) :
    (lodging endpoints others e own recorded).Keeps (out.tell event) :=
  Regime.keeps_tell_aside hout.discreet lodging_of_aside event

/-- A publication that is given up is withdrawn or stranded. -/
theorem ensures_withdraw_lodged {handle : Publication}
    (hw : Lodged endpoints others e (some handle) recorded w) :
    (out.withdraw handle).Ensures w fun _ => Lodged endpoints others e none recorded := by
  refine (hout.withdraw handle w).mono ?_
  intro answer w' ⟨hidle, hattempt⟩
  have hpublication : (w'.configurator e.configurator).publication = recorded := by
    rw [(World.objects_of_platform hidle.1).2.2.2.2.1]
    exact hw.recorded
  refine ⟨hw.stands.of_platform hidle.1, hpublication, ?_⟩
  cases hattempt with
  | served hask hcustody =>
      obtain ⟨hhandles, hmade⟩ := Host.handles_withdraw hask
      rw [hcustody, hhandles, hmade]
      exact hw.balanced.release
  | failed hcustody =>
      rw [hcustody]
      exact hw.balanced

/-- A publication that is made is its own. -/
theorem ensures_publish_lodged (identity : String) (properties : Properties) (target : Target)
    (hw : Lodged endpoints others e none recorded w) :
    (out.publish identity properties target).Ensures w fun answer =>
      Lodged endpoints others e answer.toOption recorded := by
  refine (hout.publish identity properties target w).mono ?_
  intro answer w' ⟨hidle, hattempt⟩
  have hpublication : (w'.configurator e.configurator).publication = recorded := by
    rw [(World.objects_of_platform hidle.1).2.2.2.2.1]
    exact hw.recorded
  refine ⟨hw.stands.of_platform hidle.1, hpublication, ?_⟩
  cases hattempt with
  | served hask hcustody =>
      obtain ⟨hhandles, hmade, hnumber⟩ := Host.handles_publish hask
      rw [hcustody, hhandles, hmade]
      exact hw.balanced.make hnumber
  | failed hcustody =>
      rw [hcustody]
      exact hw.balanced

theorem recording_withdraw :
    (recording endpoints others e).Keeps (Configurator.withdraw out e.configurator) := by
  intro w ⟨own, hw⟩
  have hnote : ∀ record, (lodging endpoints others e none none).Keeps (out.note record) :=
    lodging_note hout
  simp only [Configurator.withdraw, Run.ensures_bind, Run.ensures_configurator, hw.recorded]
  cases own with
  | none => exact (Run.ensures_pure _).mpr (.refl w)
  | some handle =>
      simp only [Run.ensures_bind, Run.ensures_changeConfigurator, hw.stands.configurator]
      have hcleared := hw.record none
      have hheld := (lodging_of_slight (.hold _ e.component) hcleared).1
      rw [Run.ensures_whileAlive_owned hcleared.stands.owned]
      simp only [Run.ensures_bind, Run.ensures_component]
      refine (ensures_withdraw_lodged hout hheld).mono ?_
      intro answer u hu
      have hends : ∀ {v}, Lodged endpoints others e none none v →
          (recording endpoints others e).Allows w (v.release e.component) := by
        intro v hv _
        exact ⟨⟨none, (lodging_of_slight (.release v e.component) hv).1⟩, trivial⟩
      split
      · rw [Run.ensures_bind]
        refine (hnote _ u hu).mono ?_
        intro _ v hnoted
        rw [Run.ensures_bind, Run.ensures_configurator]
        refine (lodging_tell hout _ v (hnoted hu).1).mono ?_
        intro _ x htold
        exact hends (htold (hnoted hu).1).1
      · refine (hnote _ u hu).mono ?_
        intro _ v hnoted
        exact hends (hnoted hu).1

theorem recording_publish :
    (recording endpoints others e).Keeps (Configurator.publish out e.configurator) := by
  intro w ⟨own, hw⟩
  simp -zeta only [Configurator.publish, Run.ensures_bind, Run.ensures_configurator,
    hw.recorded, hw.stands.configurator]
  split
  · exact (Run.ensures_pure _).mpr (.refl w)
  simp -zeta only [Run.ensures_bind, Run.ensures_changeConfigurator]
  have hcleared := hw.record none
  have hheld := (lodging_of_slight (.hold _ e.component) hcleared).1
  rw [Run.ensures_whileAlive_owned hcleared.stands.owned]
  simp -zeta only [Run.ensures_bind, Run.ensures_component]
  extract_lets className anew
  have hends : ∀ {own v}, Lodged endpoints others e own own v →
      (recording endpoints others e).Allows w (v.release e.component) := by
    intro own v hv _
    exact ⟨⟨own, (lodging_of_slight (.release v e.component) hv).1⟩, trivial⟩
  -- What is published when an older endpoint, if there was one, is withdrawn or stranded.
  have hanew : ∀ {u} p, Lodged endpoints others e none none u →
      (anew p).Ensures u fun _ u' =>
        (recording endpoints others e).Allows w (u'.release e.component) := by
    intro u p hu
    simp only [anew, Run.ensures_bind, Run.ensures_platform]
    refine (ensures_publish_lodged hout _ _ _ hu).mono ?_
    intro answer v hv
    cases answer with
    | error failure =>
        refine (lodging_note hout _ v hv).mono ?_
        intro _ x hnoted
        exact hends (hnoted hv).1
    | ok handle =>
        simp only [Run.ensures_bind, Run.ensures_changeConfigurator]
        have hrecorded := hv.record (some handle)
        refine (lodging_note hout _ _ hrecorded).mono ?_
        intro _ x hnoted
        refine (lodging_tell hout _ x (hnoted hrecorded).1).mono ?_
        intro _ y htold
        exact hends (htold (hnoted hrecorded).1).1
  cases own with
  | none => exact hanew () hheld
  | some previous =>
      simp -zeta only [Run.ensures_bind]
      refine (ensures_withdraw_lodged hout hheld).mono ?_
      intro answer u hu
      split
      · exact hanew () hu
      · refine (Run.ensures_bind _ _).mpr ((lodging_note hout _ u hu).mono ?_)
        intro _ v hnoted
        exact hanew () (hnoted hu).1

theorem tends_recording (hcallbacks : ∀ w w', callbacks w w' →
    (recording endpoints others e).Allows w w') : (recording endpoints others e).Tends e out := by
  -- What concerns services alone is a step aside of the host.
  have haside : ∀ {w w' : World σ}, Aside endpoints w w' →
      (recording endpoints others e).Allows w w' :=
    fun h => recording_of_lodging fun _ => lodging_of_aside h
  have H : (recording endpoints others e).Bears e out :=
    { stands := fun ⟨_, hw⟩ => hw.stands
      slight := fun h => recording_of_lodging fun _ => lodging_of_slight h
      note := Regime.keeps_note_aside hout.discreet haside }
  have hunchanged : ∀ {w w' : World σ}, (e.Stands w → e.Stands w') →
      (w'.configurator e.configurator).publication =
        (w.configurator e.configurator).publication →
      w'.surroundings = w.surroundings → (recording endpoints others e).Allows w w' := by
    intro w w' hstands hpublication hsurroundings
    apply recording_of_lodging
    intro own hw
    refine ⟨hw.of_unchanged (hstands hw.stands) hpublication ?_, trivial⟩
    rw [hsurroundings]
  exact
    { H.tolerates with
      state := fun state w _ => by
        rw [Run.ensures_changeComponent]
        exact hunchanged (fun hstands => hstands.changeComponent (fun _ => rfl) fun _ => rfl) rfl
          rfl
      tracked := fun tracked w _ => by
        rw [Run.ensures_changeCaller]
        exact hunchanged (fun hstands => hstands.of_quiet (.changeCaller w _ fun _ => rfl)) rfl rfl
      tell := Regime.keeps_tell_aside hout.discreet haside
      call := fun number component w _ => (hout.call number component w).mono fun _ _ hturn =>
        .of_turn (fun _ _ hidle =>
          haside (Idle.aside ⟨hidle.1, congrArg Prod.snd hidle.2⟩)) hcallbacks hturn
      publish := recording_publish hout
      withdraw := recording_withdraw hout
      register := fun s _ => Regime.keeps_register_aside hout.discreet haside s
      unregister := fun s _ => Regime.keeps_unregister_aside hout.discreet haside s
      write := fun s _ => Regime.keeps_write_aside hout.discreet haside s
      propagate := H.tolerates.configurator_propagate
        (fun s _ => Regime.keeps_extend_aside hout.discreet haside s)
        (fun s _ => Regime.keeps_reduce_aside hout.discreet haside s) fun entries w _ => by
          rw [Run.ensures_changeConfigurator]
          exact hunchanged (fun hstands => hstands.changeConfigurator (fun _ => rfl) fun _ => rfl)
            (by simp) rfl }

end Publications

/-! ## Operations -/

section Operations

variable {records : σ → Custody Registry Registration}
  {endpoints : σ → Custody (Host Target) Publication} {e : Ensemble} {w w' : World σ}

theorem reckoning_operates {out : Collaborators σ} {others : List Registration}
    (hout : Layered e.Operates (Failing records endpoints) out)
    (hoperates : e.Operates out w w') : (reckoning records others e).Allows w w' := by
  apply hout.operates_allowed _ hoperates
  intro callbacks out hcallbacks hrule
  exact (tends_reckoning hrule hcallbacks).operation

theorem recording_operates {out : Collaborators σ} {others : List Publication}
    (hout : Layered e.Operates (Failing records endpoints) out)
    (hoperates : e.Operates out w w') : (recording endpoints others e).Allows w w' := by
  apply hout.operates_allowed _ hoperates
  intro callbacks out hcallbacks hrule
  exact (tends_recording hrule hcallbacks).operation

/-- The handles that a registry and a host know in a later world are those of an earlier one,
those that the services and the configurator hold, and some that are lost. -/
structure Ensemble.Tallies (records : σ → Custody Registry Registration)
    (endpoints : σ → Custody (Host Target) Publication) (e : Ensemble)
    (lost : List Registration) (lost' : List Publication) (w w' : World σ) : Prop where
  registrations : (records w'.surroundings).keeper.handles.Perm
    ((w'.provider e.provider).services.filterMap (fun s => (w'.service s).registration) ++
      (lost ++ (records w.surroundings).keeper.handles))
  publications : (endpoints w'.surroundings).keeper.handles.Perm
    ((w'.configurator e.configurator).publication.toList ++
      (lost' ++ (endpoints w.surroundings).keeper.handles))

/-- Only one number of lost handles agrees with what is known. -/
theorem Ensemble.Tallies.length_eq {lost other : List Registration}
    {lost' other' : List Publication} (h : e.Tallies records endpoints lost lost' w w')
    (hother : e.Tallies records endpoints other other' w w') :
    lost.length = other.length ∧ lost'.length = other'.length := by
  have hlength := h.registrations.symm.length_eq.trans hother.registrations.length_eq
  have hlength' := h.publications.symm.length_eq.trans hother.publications.length_eq
  simp only [List.length_append] at hlength hlength'
  omega

/-- Over a registry and a host any of whose calls may fail, after any operations, whose
methods may run operations themselves: beside the handles of others the registry knows
those that the services hold and those that are stranded, and the host the one that the
configurator has recorded and those that are stranded, each once. So they know just the
handles that are held exactly if none has been stranded. -/
theorem handles_held_iff {out : Collaborators σ} {w₀ w₁ w₂ : World σ}
    (hout : Layered e.Operates (Failing records endpoints) out) (hassembled : e.Assembled out w₀ w₁)
    (hdistinct : (records w₀.surroundings).keeper.handles.Nodup)
    (hnumbered : (records w₀.surroundings).keeper.Numbered)
    (horderly : (endpoints w₀.surroundings).keeper.Orderly)
    (hnone : (records w₀.surroundings).stranded = [] ∧ (endpoints w₀.surroundings).stranded = [])
    (hturn : Turn (Idle fun t => (records t, endpoints t)) (e.Operates out) w₁ w₂) :
    e.Tallies records endpoints (records w₂.surroundings).stranded
        (endpoints w₂.surroundings).stranded w₀ w₂ ∧
      (records w₂.surroundings).keeper.handles.Nodup ∧
      (endpoints w₂.surroundings).keeper.handles.Nodup ∧
      (e.Tallies records endpoints [] [] w₀ w₂ ↔
        (records w₂.surroundings).stranded = [] ∧ (endpoints w₂.surroundings).stranded = []) := by
  obtain ⟨callbacks, hrule⟩ := hout.exists_rule
  obtain ⟨hnew, hrecords⟩ := hassembled.new fun record t => (hrule.log record t).1
  obtain ⟨-, hendpoints⟩ := hassembled.new fun record t => (hrule.log record t).2
  -- The registry and the host are accounted for apart, each in a regime of its own.
  have hreckoned : Reckoned records (records w₀.surroundings).keeper.handles e w₁ := by
    refine ⟨hnew.stands, hnew.distinct, ?_⟩
    have hfree : e.held w₁ = [] := by
      apply List.filterMap_eq_nil_iff.mpr
      exact fun s hs => (hnew.fresh s hs).unregistered
    rw [hfree, hrecords, hnone.1]
    exact ⟨.refl _, hdistinct, Registry.number_le_of_mem_handles hnumbered⟩
  have hlodged : Lodged endpoints (endpoints w₀.surroundings).keeper.handles e none none w₁ := by
    refine ⟨hnew.stands, hnew.unpublished, ?_⟩
    rw [hendpoints, hnone.2]
    exact ⟨.refl _, horderly.distinct, Host.number_le_of_mem_handles horderly⟩
  have hreckons : (reckoning records (records w₀.surroundings).keeper.handles e).Allows w₁ w₂ := by
    apply Regime.Allows.of_turn _ (fun _ _ => reckoning_operates hout) hturn
    exact fun u v hidle => reckoning_of_idle ⟨hidle.1, congrArg Prod.fst hidle.2⟩
  have hrecorded :
      (recording endpoints (endpoints w₀.surroundings).keeper.handles e).Allows w₁ w₂ := by
    apply Regime.Allows.of_turn _ (fun _ _ => recording_operates hout) hturn
    intro u v hidle
    apply recording_of_lodging
    exact fun own => lodging_of_aside (Idle.aside ⟨hidle.1, congrArg Prod.snd hidle.2⟩)
  obtain ⟨hend, -⟩ := hreckons hreckoned
  obtain ⟨⟨own, hown⟩, -⟩ := hrecorded ⟨none, hlodged⟩
  have htallies : e.Tallies records endpoints (records w₂.surroundings).stranded
      (endpoints w₂.surroundings).stranded w₀ w₂ := by
    constructor
    · rw [hend.stands.provider]
      exact hend.balanced.perm
    · rw [hown.recorded]
      exact hown.balanced.perm
  refine ⟨htallies, hend.balanced.distinct, hown.balanced.distinct, ?_⟩
  constructor
  · intro hheld
    obtain ⟨hlength, hlength'⟩ := htallies.length_eq hheld
    exact ⟨List.eq_nil_of_length_eq_zero hlength, List.eq_nil_of_length_eq_zero hlength'⟩
  · intro ⟨hempty, hempty'⟩
    rw [hempty, hempty'] at htallies
    exact htallies

end Operations

/-! ## A depot that clings -/

/-- A registry and a host in custody. -/
structure Depot where
  records : Custody Registry Registration
  endpoints : Custody (Host Target) Publication

namespace Depot

/-- A depot in which nothing was made. -/
def empty : Depot := ⟨⟨.empty, []⟩, ⟨.empty, []⟩⟩

/-- Keep another registry. -/
def store (after : Registry) (depot : Depot) : Depot :=
  { depot with records := { depot.records with keeper := after } }

/-- Keep another host. -/
def setHost (after : Host Target) (depot : Depot) : Depot :=
  { depot with endpoints := { depot.endpoints with keeper := after } }

/-- A registration is stranded. -/
def strand (handle : Registration) (depot : Depot) : Depot :=
  { depot with records := { depot.records with stranded := handle :: depot.records.stranded } }

/-- A publication is stranded. -/
def strandPublication (handle : Publication) (depot : Depot) : Depot :=
  { depot with
    endpoints := { depot.endpoints with stranded := handle :: depot.endpoints.stranded } }

/-- Collaborators in memory that never take a handle back. -/
def clinging : Collaborators Depot :=
  { (Collaborators.inMemory (fun depot => depot.records.keeper) store (fun _ depot => depot)
      fun _ => return .returned).hosting (fun depot => depot.endpoints.keeper) setHost with
    unregister := fun handle => do
      Run.changeSurroundings (strand handle)
      return .error (.registry (.refused "busy"))
    withdraw := fun handle => do
      Run.changeSurroundings (strandPublication handle)
      return .error (.registry (.refused "busy")) }

theorem attempt_askRegistry (ask : Registry → Except Failure (α × Registry)) (w : World Depot) :
    (askRegistry (fun depot : Depot => depot.records.keeper) store ask).Ensures w fun answer w' =>
      Idle Depot.endpoints w w' ∧ Attempt Depot.records ask [] w w' answer := by
  simp only [askRegistry, Run.ensures_bind, Run.ensures_surroundings]
  split
  next a after hask =>
    simp only [Run.ensures_bind, Run.ensures_changeSurroundings, Run.ensures_pure]
    exact ⟨⟨rfl, rfl⟩, .served hask rfl⟩
  next => exact (Run.ensures_pure _).mpr ⟨⟨rfl, rfl⟩, .failed rfl⟩

theorem failing_clinging {callbacks : World Depot → World Depot → Prop} :
    Failing Depot.records Depot.endpoints callbacks clinging where
  log _ _ := ⟨rfl, rfl⟩
  announce _ _ := ⟨rfl, rfl⟩
  register specifications properties factory w :=
    attempt_askRegistry (·.register specifications properties factory) w
  unregister handle w := by
    simp only [clinging, Run.ensures_bind, Run.ensures_changeSurroundings, Run.ensures_pure]
    exact ⟨⟨rfl, rfl⟩, .failed rfl⟩
  update handle properties w := attempt_askRegistry (·.askUpdate handle properties) w
  publish identity properties target w := by
    simp only [clinging, Collaborators.hosting, Run.ensures_bind, Run.ensures_surroundings,
      Run.ensures_changeSurroundings, Run.ensures_pure]
    exact ⟨⟨rfl, rfl⟩, .served rfl rfl⟩
  withdraw handle w := by
    simp only [clinging, Run.ensures_bind, Run.ensures_changeSurroundings, Run.ensures_pure]
    exact ⟨⟨rfl, rfl⟩, .failed rfl⟩
  call _ _ _ := (Run.ensures_pure _).mpr .refl

theorem layered_clinging (e : Ensemble) :
    Layered e.Operates (Failing Depot.records Depot.endpoints) clinging :=
  .bottom failing_clinging

end Depot

/-- The lamp is assembled if its handlers come to hold its service and its property. -/
theorem Ensemble.assembled_lamp {out : Collaborators σ} {t : σ} {w : World σ}
    {candidates : List Handler} {configuration : Properties}
    (hcandidates : candidates.Perm lamp.handlers)
    (hconfigured : (Component.configure out ⟨0⟩ candidates configuration).run (.lamp t) =
      some ((), w))
    (hservices : (w.provider ⟨0⟩).services = [⟨0⟩])
    (hproperties : (w.configurator ⟨0⟩).properties = [⟨0⟩]) :
    lamp.Assembled out (.lamp t) w :=
  ⟨⟨_, _, rfl⟩, ⟨candidates, configuration, hcandidates, hconfigured⟩, hservices, hproperties⟩

/-- The lamp is started, stopped and started again. It holds the second registration and the
second publication, and the first ones are still there. -/
theorem handles_held_iff_clinging :
    ∃ w₁ w₂ : World Depot,
      (Component.configure Depot.clinging ⟨0⟩
        [.provider ⟨0⟩, .configurator ⟨0⟩, .caller ⟨0⟩] .empty).run (.lamp .empty) =
          some ((), w₁) ∧
      (Ensemble.lamp.performing Depot.clinging [.start, .stop, .start] .returned).run w₁ =
        some (.returned, w₂) ∧
      w₂.surroundings.records.keeper.handles.Perm [⟨2⟩, ⟨1⟩] ∧
      w₂.surroundings.endpoints.keeper.handles.Perm [⟨2⟩, ⟨1⟩] := by
  have hends : ((Component.configure Depot.clinging ⟨0⟩
      [.provider ⟨0⟩, .configurator ⟨0⟩, .caller ⟨0⟩] .empty).run (.lamp .empty)).bind
        (fun first => ((Ensemble.lamp.performing Depot.clinging [.start, .stop, .start]
          .returned).run first.2).map fun second =>
            (second.1, decide ((first.2.provider ⟨0⟩).services = [⟨0⟩] ∧
              (first.2.configurator ⟨0⟩).properties = [⟨0⟩] ∧
              (second.2.provider ⟨0⟩).services.filterMap
                (fun s => (second.2.service s).registration) = [⟨2⟩] ∧
              second.2.surroundings.records.stranded = [⟨1⟩] ∧
              (second.2.configurator ⟨0⟩).publication = some ⟨2⟩ ∧
              second.2.surroundings.endpoints.stranded = [⟨1⟩]))) =
                some (.returned, true) := by
    decide +kernel
  obtain ⟨⟨⟨⟩, w₁⟩, hconfigured, hends⟩ := Option.bind_eq_some_iff.mp hends
  obtain ⟨⟨ending, w₂⟩, hperformed, hfacts⟩ := Option.map_eq_some_iff.mp hends
  obtain ⟨rfl, hfacts⟩ := Prod.mk.inj hfacts
  obtain ⟨hservices, hproperties, hheld, hstranded, hpublication, hstranded'⟩ :=
    of_decide_eq_true hfacts
  obtain ⟨htallies, -⟩ := handles_held_iff (Depot.layered_clinging .lamp)
    (Ensemble.assembled_lamp (.refl _) hconfigured hservices hproperties) List.nodup_nil
    Registry.numbered_empty Host.orderly_empty ⟨rfl, rfl⟩
    (Ensemble.turn_performing _ _ _ _ w₁ _ w₂ hperformed)
  refine ⟨w₁, w₂, hconfigured, hperformed, ?_, ?_⟩
  · have hregistrations := htallies.registrations
    rw [show (w₂.provider Ensemble.lamp.provider).services.filterMap
      (fun s => (w₂.service s).registration) = [⟨2⟩] from hheld, hstranded] at hregistrations
    exact hregistrations
  · have hpublications := htallies.publications
    rw [show (w₂.configurator Ensemble.lamp.configurator).publication = some ⟨2⟩ from hpublication,
      hstranded'] at hpublications
    exact hpublications

/-- Handles may be lost: a stop whose calls fail leaves a record that no service holds. -/
theorem handle_lost :
    ¬ ∀ (e : Ensemble) (out : Collaborators Depot) (w₀ w₁ w₂ : World Depot),
      Layered e.Operates (Failing Depot.records Depot.endpoints) out → e.Assembled out w₀ w₁ →
      w₀.surroundings = .empty →
      Turn (Idle fun depot => (depot.records, depot.endpoints)) (e.Operates out) w₁ w₂ →
      e.Tallies Depot.records Depot.endpoints [] [] w₀ w₂ := by
  intro hall
  have hends : ((Component.configure Depot.clinging ⟨0⟩
      [.provider ⟨0⟩, .configurator ⟨0⟩, .caller ⟨0⟩] .empty).run (.lamp .empty)).bind
        (fun first => ((Ensemble.lamp.performing Depot.clinging [.start, .stop] .returned).run
          first.2).map fun second =>
            decide ((first.2.provider ⟨0⟩).services = [⟨0⟩] ∧
              (first.2.configurator ⟨0⟩).properties = [⟨0⟩] ∧
              (second.2.provider ⟨0⟩).services.filterMap
                (fun s => (second.2.service s).registration) = [] ∧
              second.2.surroundings.records.keeper.handles = [⟨1⟩])) = some true := by
    decide +kernel
  obtain ⟨⟨⟨⟩, w₁⟩, hconfigured, hends⟩ := Option.bind_eq_some_iff.mp hends
  obtain ⟨⟨ending, w₂⟩, hperformed, hfacts⟩ := Option.map_eq_some_iff.mp hends
  obtain ⟨hservices, hproperties, hheld, hleft⟩ := of_decide_eq_true hfacts
  have htallies := hall .lamp Depot.clinging (.lamp .empty) w₁ w₂ (Depot.layered_clinging .lamp)
    (Ensemble.assembled_lamp (.refl _) hconfigured hservices hproperties) rfl
    (Ensemble.turn_performing _ _ _ _ w₁ _ w₂ hperformed)
  have hlength := htallies.registrations.length_eq
  rw [show (w₂.provider Ensemble.lamp.provider).services.filterMap
    (fun s => (w₂.service s).registration) = [] from hheld, hleft] at hlength
  cases hlength

end Componentry

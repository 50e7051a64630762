import Componentry.Proofs.Ensemble.Assembly

/-!
# A diary of registrations

Whether a handle was handed over while its component was valid cannot be seen from the
platform afterwards. So the surroundings keep a diary of it, and of the stops that are in
progress.

A step leads on if new registrations are under new handles, if none is in time while a
stop is in progress, and if it either leaves no service exposed but under a late handle,
or changes neither the state nor lets a service become registered in time.
-/

namespace Componentry

variable {σ : Type}

/-- What the surroundings note about registrations: how many handles were made, which of
them were handed over late, and how many stops are in progress. -/
structure Diary where
  made : Nat
  late : List Registration
  stops : Nat

/-- Whether a handle that is handed over now is in time: the component is valid, and is
not being stopped. -/
def Ensemble.Open (e : Ensemble) (diary : σ → Diary) (w : World σ) : Prop :=
  (w.component e.component).state = .valid ∧ (diary w.surroundings).stops = 0

instance (e : Ensemble) (diary : σ → Diary) (w : World σ) : Decidable (e.Open diary w) :=
  inferInstanceAs (Decidable (_ ∧ _))

/-- The diary when a handle is handed over: it is noted as late unless it is in time. -/
def Ensemble.handOver (e : Ensemble) (diary : σ → Diary) (handle : Registration) (w : World σ) :
    Diary :=
  { diary w.surroundings with
    late := if e.Open diary w then (diary w.surroundings).late
      else handle :: (diary w.surroundings).late }

/-- What happens to an ensemble: an operation other than stopping ends, or a stop that is
noted in the diary while it is in progress. -/
inductive Ensemble.Stirs (diary : σ → Diary) (e : Ensemble) (out : Collaborators σ)
    (w w' : World σ) : Prop
  | operate (operation : Operation) (hother : operation ≠ .stop)
      (hrun : (operation.run out e).run w = some ((), w'))
  | stop {u v : World σ} (hbefore : u.platform = w.platform)
      (hbegun : diary u.surroundings =
        { diary w.surroundings with stops := (diary w.surroundings).stops + 1 })
      (hrun : (Operation.stop.run out e).run u = some ((), v))
      (hbehind : w'.platform = v.platform)
      (hended : diary w'.surroundings =
        { diary v.surroundings with stops := (diary v.surroundings).stops - 1 })

/-- A registration that may be called back from: a handle is made, and noted as late if it
is not handed over in time. -/
inductive HandsOver (diary : σ → Diary) (e : Ensemble) (callbacks : World σ → World σ → Prop)
    (w w' : World σ) : Except Failure Registration → Prop
  | handed {handle : Registration} {u v x : World σ} (hbefore : Turn (Idle diary) callbacks w u)
      (hsame : v.platform = u.platform)
      (hmade : diary v.surroundings =
        { diary u.surroundings with made := (diary u.surroundings).made + 1 })
      (hhandle : handle.number = (diary u.surroundings).made + 1)
      (hbehind : Turn (Idle diary) callbacks v x) (hplatform : w'.platform = x.platform)
      (hlate : diary w'.surroundings = e.handOver diary handle x) :
      HandsOver diary e callbacks w w' (.ok handle)
  | failed {failure : Failure} (hturn : Turn (Idle diary) callbacks w w') :
      HandsOver diary e callbacks w w' (.error failure)

/-- Collaborators all of whose calls may be called back from. -/
structure CallingBack (diary : σ → Diary) (e : Ensemble)
    (callbacks : World σ → World σ → Prop) (out : Collaborators σ) : Prop where
  log : ∀ record t, diary (out.log record t) = diary t
  announce : ∀ event t, diary (out.announce event t) = diary t
  register : ∀ specifications properties factory w,
    (out.register specifications properties factory).Ensures w fun answer w' =>
      HandsOver diary e callbacks w w' answer
  unregister : ∀ handle w,
    (out.unregister handle).Ensures w fun _ => Turn (Idle diary) callbacks w
  update : ∀ handle properties w,
    (out.update handle properties).Ensures w fun _ => Turn (Idle diary) callbacks w
  publish : ∀ identity properties target w,
    (out.publish identity properties target).Ensures w fun _ => Turn (Idle diary) callbacks w
  withdraw : ∀ handle w,
    (out.withdraw handle).Ensures w fun _ => Turn (Idle diary) callbacks w
  call : ∀ number component w,
    (out.call number component).Ensures w fun _ => Turn (Idle diary) callbacks w

/-- The service is registered under a handle that was handed over in time. -/
def Timely (diary : σ → Diary) (w : World σ) (s : Ref .service) : Prop :=
  ∃ handle, (w.service s).registration = some handle ∧ handle ∉ (diary w.surroundings).late

/-- No service is exposed but under a late handle. -/
def Covered (diary : σ → Diary) (e : Ensemble) (w : World σ) : Prop :=
  ∀ s ∈ e.services, Timely diary w s → (w.component e.component).state = .valid

/-- The service is registered in time only where it may be. -/
def Released (diary : σ → Diary) (e : Ensemble) (s : Ref .service) (w : World σ) : Prop :=
  Timely diary w s → e.Open diary w

/-- The ensemble stands, and its services hold handles that were made. -/
structure Counted (diary : σ → Diary) (e : Ensemble) (w : World σ) : Prop where
  stands : e.Stands w
  made : ∀ s ∈ e.services, ∀ handle, (w.service s).registration = some handle →
    handle.number ≤ (diary w.surroundings).made

/-- How steps lead on. A new registration is under a new handle, and none is in time while
a stop is in progress. A step that changes the state, or lets a service become registered
in time, ends with no service exposed but under a late handle. -/
structure Advances (diary : σ → Diary) (e : Ensemble) (w w' : World σ) : Prop where
  stops : (diary w'.surroundings).stops = (diary w.surroundings).stops
  made : (diary w.surroundings).made ≤ (diary w'.surroundings).made
  late : ∀ handle : Registration, handle.number ≤ (diary w.surroundings).made →
    (handle ∈ (diary w'.surroundings).late ↔ handle ∈ (diary w.surroundings).late)
  held : ∀ s ∈ e.services, ∀ handle, (w'.service s).registration = some handle →
    (w.service s).registration = some handle ∨ (diary w.surroundings).made < handle.number
  stopping : 0 < (diary w.surroundings).stops →
    ∀ s ∈ e.services, Timely diary w' s → Timely diary w s
  tracks : Covered diary e w' ∨
    (w'.component e.component).state = (w.component e.component).state ∧
      ∀ s ∈ e.services, Timely diary w' s → Timely diary w s

variable {diary : σ → Diary} {e : Ensemble} {w w' : World σ}

theorem Covered.of_advances (hcovered : Covered diary e w) (h : Advances diary e w w') :
    Covered diary e w' := by
  rcases h.tracks with hcovered' | ⟨hstate, htimely⟩
  · exact hcovered'
  · intro s hs hheld
    rw [hstate]
    exact hcovered s hs (htimely s hs hheld)

theorem Released.of_unregistered {s : Ref .service}
    (hfree : (w.service s).registration = none) : Released diary e s w := by
  rintro ⟨handle, hheld, -⟩
  rw [hfree] at hheld
  cases hheld

theorem Released.of_advances {s : Ref .service} (hreleased : Released diary e s w)
    (hs : s ∈ e.services) (h : Advances diary e w w') : Released diary e s w' := by
  intro htimely
  -- While a stop is in progress a service that is released stays so.
  have hstops : (diary w.surroundings).stops = 0 := by
    by_cases hstopping : 0 < (diary w.surroundings).stops
    · exact (hreleased (h.stopping hstopping s hs htimely)).2
    · exact Nat.eq_zero_of_not_pos hstopping
  refine ⟨?_, h.stops.trans hstops⟩
  rcases h.tracks with hcovered | ⟨hstate, hbefore⟩
  · exact hcovered s hs htimely
  · rw [hstate]
    exact (hreleased (hbefore s hs htimely)).1

namespace Advances

/-- Registrations are only dropped. -/
theorem of_dropped (hdiary : diary w'.surroundings = diary w.surroundings)
    (hstate : (w'.component e.component).state = (w.component e.component).state)
    (hdropped : ∀ s ∈ e.services, ∀ handle, (w'.service s).registration = some handle →
      (w.service s).registration = some handle) : Advances diary e w w' := by
  have htimely : ∀ s ∈ e.services, Timely diary w' s → Timely diary w s := by
    rintro s hs ⟨handle, hheld, hlate⟩
    rw [hdiary] at hlate
    exact ⟨handle, hdropped s hs handle hheld, hlate⟩
  refine ⟨by rw [hdiary], Nat.le_of_eq (by rw [hdiary]), fun handle _ => by rw [hdiary], ?_,
    fun _ => htimely, .inr ⟨hstate, htimely⟩⟩
  exact fun s hs handle hheld => .inl (hdropped s hs handle hheld)

theorem refl (w : World σ) : Advances diary e w w :=
  of_dropped rfl rfl fun _ _ _ hheld => hheld

theorem trans {u v : World σ} (huv : Advances diary e u v) (hvw : Advances diary e v w) :
    Advances diary e u w := by
  refine ⟨hvw.stops.trans huv.stops, Nat.le_trans huv.made hvw.made, ?_, ?_, ?_, ?_⟩
  · intro handle hmade
    rw [hvw.late handle (Nat.le_trans hmade huv.made), huv.late handle hmade]
  · intro s hs handle hheld
    rcases hvw.held s hs handle hheld with hbefore | hnew
    · exact huv.held s hs handle hbefore
    · exact .inr (Nat.lt_of_le_of_lt huv.made hnew)
  · intro hstopping s hs htimely
    refine huv.stopping hstopping s hs (hvw.stopping ?_ s hs htimely)
    rw [huv.stops]
    exact hstopping
  · rcases hvw.tracks with hcovered | ⟨hstate, htimely⟩
    · exact .inl hcovered
    · rcases huv.tracks with hcovered | ⟨hstate', htimely'⟩
      · refine .inl fun s hs hheld => ?_
        rw [hstate]
        exact hcovered s hs (htimely s hs hheld)
      · exact .inr ⟨hstate.trans hstate', fun s hs hheld => htimely' s hs (htimely s hs hheld)⟩

end Advances

/-- The regime of everything that happens to an ensemble. -/
def advancing (diary : σ → Diary) (e : Ensemble) : Regime σ where
  holds := Counted diary e
  leads := Advances diary e
  refl := .refl
  trans := .trans

/-- A step that only drops registrations. -/
theorem advancing_of_dropped (hstands : e.Stands w → e.Stands w')
    (hdiary : diary w'.surroundings = diary w.surroundings)
    (hstate : (w'.component e.component).state = (w.component e.component).state)
    (hdropped : ∀ s ∈ e.services, ∀ handle, (w'.service s).registration = some handle →
      (w.service s).registration = some handle) : (advancing diary e).Allows w w' := by
  intro hw
  refine ⟨⟨hstands hw.stands, fun s hs handle hheld => ?_⟩, .of_dropped hdiary hstate hdropped⟩
  rw [hdiary]
  exact hw.made s hs handle (hdropped s hs handle hheld)

theorem advancing_of_idle (hidle : Idle diary w w') : (advancing diary e).Allows w w' := by
  obtain ⟨hcomponent, hservice, -⟩ := World.objects_of_platform hidle.1
  refine advancing_of_dropped (fun hstands => hstands.of_platform hidle.1) hidle.2 ?_ ?_
  · rw [hcomponent]
  · rw [hservice]
    exact fun _ _ _ hheld => hheld

/-- A service is changed, and keeps its registration or loses it. -/
theorem advancing_setService {s : Ref .service} {service : Service}
    (hheld : ∀ handle, service.registration = some handle →
      (w.service s).registration = some handle) :
    (advancing diary e).Allows w (w.setService s service) := by
  refine advancing_of_dropped (fun hstands => hstands.of_setService rfl) rfl rfl ?_
  intro t _ handle
  rw [World.service_setService]
  split
  next heq =>
    rw [heq]
    exact hheld handle
  next => exact id

theorem advancing_heeds :
    (advancing diary e).Heeds e (.provider e.provider) (Covered diary e) where
  kept hcovered hadvances := hcovered.of_advances hadvances
  changed hadvances := hadvances.tracks.imp_right And.left
  absent hw hnot s hs := by
    rw [hw.stands.services_eq_nil hnot] at hs
    cases hs
  admitted _ hw := ⟨hw.stands.changeComponent (fun _ => rfl) fun _ => rfl, hw.made⟩
  leads _ hadvances hcovered := ⟨hadvances.stops, hadvances.made, hadvances.late, hadvances.held,
    hadvances.stopping, .inl hcovered⟩

/-! ## Registrations -/

/-- A new handle is made: nothing holds it yet. -/
theorem advancing_of_made (hplatform : w'.platform = w.platform)
    (hmade : diary w'.surroundings =
      { diary w.surroundings with made := (diary w.surroundings).made + 1 }) :
    (advancing diary e).Allows w w' := by
  intro hw
  obtain ⟨hcomponent, hservice, -⟩ := World.objects_of_platform hplatform
  have htimely : ∀ s ∈ e.services, Timely diary w' s → Timely diary w s := by
    intro s _ hheld
    rw [Timely, hservice, hmade] at hheld
    exact hheld
  refine ⟨⟨hw.stands.of_platform hplatform, ?_⟩, by rw [hmade], ?_, fun handle _ => by rw [hmade],
    ?_, fun _ => htimely, .inr ⟨by rw [hcomponent], htimely⟩⟩
  · rw [hservice, hmade]
    exact fun s hs handle hheld => Nat.le_succ_of_le (hw.made s hs handle hheld)
  · rw [hmade]
    exact Nat.le_succ _
  · rw [hservice]
    exact fun _ _ _ hheld => .inl hheld

section Handed

variable {u : World σ} {s : Ref .service} {service : Service} {handle : Registration}
  (hfresh : ∀ t ∈ e.services, (u.service t).registration ≠ some handle)
  (hplatform : w'.platform = u.platform)
  (hlate : diary w'.surroundings = e.handOver diary handle u)
  (hregistered : service.registration = some handle)
include hplatform

omit e in
theorem service_of_handed (t : Ref .service) :
    (w'.setService s service).service t = if t = s then service else u.service t := by
  rw [World.service_setService, (World.objects_of_platform hplatform).2.1]

include hlate

omit hplatform in
/-- Whether another handle is late has not changed. -/
theorem late_of_handed {other : Registration} (hother : other ≠ handle) :
    other ∈ (diary (w'.setService s service).surroundings).late ↔
      other ∈ (diary u.surroundings).late := by
  rw [(World.setService_frame w' s service).1, hlate]
  simp only [Ensemble.handOver]
  split
  · rfl
  · rw [List.mem_cons, or_iff_right hother]

include hfresh hregistered

/-- A service that is registered in time behind the handing over was so before, unless it
has been given the handle in time. -/
theorem timely_of_handed {t : Ref .service} (ht : t ∈ e.services)
    (hcase : t = s → ¬ e.Open diary u) (htimely : Timely diary (w'.setService s service) t) :
    Timely diary u t := by
  obtain ⟨other, hother, hintime⟩ := htimely
  rw [service_of_handed hplatform] at hother
  by_cases hts : t = s
  · -- The service holds the new handle, which is late.
    rw [if_pos hts, hregistered] at hother
    cases hother
    refine absurd ?_ hintime
    rw [(World.setService_frame w' s service).1, hlate, Ensemble.handOver, if_neg (hcase hts)]
    exact List.mem_cons_self
  · rw [if_neg hts] at hother
    refine ⟨other, hother, fun hmember => hintime ?_⟩
    refine (late_of_handed hlate fun heq => ?_).mpr hmember
    exact hfresh t ht (heq ▸ hother)

/-- A handle that is made, not held by any service since, and given to a service. -/
theorem advancing_of_handed (hallows : (advancing diary e).Allows w u)
    (hnew : (diary w.surroundings).made < handle.number)
    (hmade : handle.number ≤ (diary u.surroundings).made) :
    (advancing diary e).Allows w (w'.setService s service) := by
  intro hw
  obtain ⟨hu, hadvances⟩ := hallows hw
  have hservice : ∀ t, (w'.setService s service).service t =
      if t = s then service else u.service t := service_of_handed hplatform
  have hsurroundings : (w'.setService s service).surroundings = w'.surroundings := rfl
  have hcomponent : (w'.setService s service).component = u.component :=
    (World.objects_of_platform hplatform).1
  refine ⟨⟨?_, ?_⟩, ?_, ?_, ?_, ?_, ?_, ?_⟩
  · exact hu.stands.of_setService (World.setService_platform hplatform s service)
  · intro t ht other hother
    rw [hsurroundings, hlate]
    rw [hservice] at hother
    split at hother
    · rw [hregistered] at hother
      cases hother
      exact hmade
    · exact hu.made t ht other hother
  · rw [hsurroundings, hlate]
    exact hadvances.stops
  · rw [hsurroundings, hlate]
    exact hadvances.made
  · intro other hother
    rw [late_of_handed hlate, hadvances.late other hother]
    rintro rfl
    exact Nat.lt_irrefl _ (Nat.lt_of_lt_of_le hnew hother)
  · intro t ht other hother
    rw [hservice] at hother
    split at hother
    · rw [hregistered] at hother
      cases hother
      exact .inr hnew
    · exact hadvances.held t ht other hother
  · -- While a stop is in progress no handle is handed over in time.
    intro hstopping t ht htimely
    refine hadvances.stopping hstopping t ht ?_
    refine timely_of_handed hfresh hplatform hlate hregistered ht (fun _ hopen => ?_) htimely
    rw [← hadvances.stops, hopen.2] at hstopping
    exact Nat.lt_irrefl 0 hstopping
  · rw [Covered, hcomponent]
    by_cases hopen : e.Open diary u
    · exact .inl fun _ _ _ => hopen.1
    · have hbefore : ∀ t ∈ e.services, Timely diary (w'.setService s service) t →
          Timely diary u t := by
        intro t ht
        exact timely_of_handed hfresh hplatform hlate hregistered ht fun _ => hopen
      rcases hadvances.tracks with hcovered | ⟨hstate, htimely⟩
      · exact .inl fun t ht hheld => hcovered t ht (hbefore t ht hheld)
      · exact .inr ⟨hstate, fun t ht hheld => htimely t ht (hbefore t ht hheld)⟩

end Handed

end Componentry

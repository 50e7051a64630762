import Componentry.Proofs.Registry.Ledger
import Componentry.Service

/-!
# Offers

A service and the registry that it is offered in, and how operations on the service lead
from one offer to another: what they may change at all, and that at the end the service
is in step or nothing has touched it.
-/

namespace Componentry.Service

/-- A service and the registry that it is offered in. -/
structure Offer where
  service : Service
  registry : Registry

namespace Offer

/-- The service is not registered, or the record of its handle shows its visible
properties. -/
def InStep (o : Offer) : Prop :=
  ∀ handle, o.service.registration = some handle →
    ∃ record, o.registry.record? handle = some record ∧ record.properties = o.service.visible

/-- The handle that the service holds is one of the registry. -/
structure Accounted (o : Offer) : Prop where
  numbered : o.registry.Numbered
  live : ∀ handle, o.service.registration = some handle → o.registry.isRegistered handle = true

/-- What operations on the service may change. -/
structure Progress (o o' : Offer) : Prop where
  registrations : o.registry.registrations ≤ o'.registry.registrations
  revision : o.service.revision ≤ o'.service.revision
  visible : o'.service.revision = o.service.revision → o'.service.visible = o.service.visible
  /-- A handle that the service comes to hold is new. -/
  held : ∀ handle, o'.service.registration = some handle →
    o.service.registration = some handle ∨ o.registry.registrations < handle.number
  /-- The records of other handles stay. -/
  others : ∀ handle, handle.number ≤ o.registry.registrations →
    o.service.registration ≠ some handle →
      o'.registry.record? handle = o.registry.record? handle

/-- The service holds the same handle, with the same record, at the same revision. -/
structure Untouched (o o' : Offer) : Prop where
  registration : o'.service.registration = o.service.registration
  revision : o'.service.revision = o.service.revision
  record : ∀ handle, o.service.registration = some handle →
    o'.registry.record? handle = o.registry.record? handle

/-- How operations on the service lead from one offer to another: at the end the service
is in step, or nothing has touched it. -/
structure Leads (o o' : Offer) : Prop where
  progress : Progress o o'
  settled : InStep o' ∨ Untouched o o'

variable {o o' p q : Offer} {handle : Registration}

theorem inStep_of_unregistered (hfree : o.service.registration = none) : InStep o := by
  intro handle hheld
  rw [hfree] at hheld
  cases hheld

theorem Accounted.of_unregistered (hnumbered : o.registry.Numbered)
    (hfree : o.service.registration = none) : Accounted o := by
  refine ⟨hnumbered, ?_⟩
  intro handle hheld
  rw [hfree] at hheld
  cases hheld

theorem Accounted.number_le (ho : Accounted o) (hheld : o.service.registration = some handle) :
    handle.number ≤ o.registry.registrations :=
  ho.numbered.of_isRegistered (ho.live handle hheld)

theorem Progress.refl (o : Offer) : Progress o o where
  registrations := Nat.le_refl _
  revision := Nat.le_refl _
  visible _ := rfl
  held _ hheld := .inl hheld
  others _ _ _ := rfl

/-- A handle that has been reached and is not held does not come back. -/
theorem Progress.not_held (h : Progress o o') (hle : handle.number ≤ o.registry.registrations)
    (hother : o.service.registration ≠ some handle) :
    o'.service.registration ≠ some handle := by
  intro hheld
  rcases h.held handle hheld with hbefore | hnew
  · exact hother hbefore
  · omega

theorem Progress.trans (hop : Progress o p) (hpq : Progress p q) : Progress o q where
  registrations := Nat.le_trans hop.registrations hpq.registrations
  revision := Nat.le_trans hop.revision hpq.revision
  visible hsame := by
    -- Revisions only grow, so the one between is the same.
    have hle := hop.revision
    have hle' := hpq.revision
    rw [hpq.visible (by omega), hop.visible (by omega)]
  held handle hheld := by
    rcases hpq.held handle hheld with hmiddle | hnew
    · exact hop.held handle hmiddle
    · exact .inr (Nat.lt_of_le_of_lt hop.registrations hnew)
  others handle hle hother := by
    have hle' := Nat.le_trans hle hop.registrations
    rw [hpq.others handle hle' (hop.not_held hle hother), hop.others handle hle hother]

theorem Untouched.refl (o : Offer) : Untouched o o := ⟨rfl, rfl, fun _ _ => rfl⟩

theorem Untouched.trans (hop : Untouched o p) (hpq : Untouched p q) : Untouched o q where
  registration := hpq.registration.trans hop.registration
  revision := hpq.revision.trans hop.revision
  record handle hheld :=
    (hpq.record handle (hop.registration.trans hheld)).trans (hop.record handle hheld)

/-- A service in step that nothing touches stays in step. -/
theorem InStep.of_untouched (hstep : InStep o) (hprogress : Progress o o')
    (hsame : Untouched o o') : InStep o' := by
  intro handle hheld
  rw [hsame.registration] at hheld
  obtain ⟨record, hrecord, hshown⟩ := hstep handle hheld
  refine ⟨record, ?_, ?_⟩
  · rw [hsame.record handle hheld, hrecord]
  · rw [hshown, hprogress.visible hsame.revision]

theorem Leads.refl (o : Offer) : Leads o o := ⟨.refl o, .inr (.refl o)⟩

theorem Leads.trans (hop : Leads o p) (hpq : Leads p q) : Leads o q := by
  refine ⟨hop.progress.trans hpq.progress, ?_⟩
  rcases hpq.settled with hstep | hsame
  · exact .inl hstep
  · rcases hop.settled with hstep | hbefore
    · exact .inl (hstep.of_untouched hpq.progress hsame)
    · exact .inr (hbefore.trans hsame)

/-- What was in step and is led on is in step. -/
theorem InStep.of_leads (hstep : InStep o) (h : Leads o o') : InStep o' := by
  rcases h.settled with hstep' | hsame
  · exact hstep'
  · exact hstep.of_untouched h.progress hsame

section Registering

variable {after : Registry} {specifications : List String} {properties : Properties}
  {factory : FactoryPolicy}

theorem Accounted.register (ho : Accounted o)
    (hregister : o.registry.register specifications properties factory = .ok (handle, after)) :
    Accounted ⟨o.service, after⟩ := by
  refine ⟨ho.numbered.register hregister, ?_⟩
  intro held hheld
  have hlive := ho.live held hheld
  simp only [Registry.isRegistered] at hlive ⊢
  rw [Registry.record?_register ho.numbered hregister]
  split
  · rfl
  · exact hlive

theorem Leads.register (ho : Accounted o)
    (hregister : o.registry.register specifications properties factory = .ok (handle, after)) :
    Leads o ⟨o.service, after⟩ := by
  have hnumber := Registry.number_of_register hregister
  have hold : ∀ other : Registration, other.number ≤ o.registry.registrations →
      after.record? other = o.registry.record? other := by
    intro other hle
    rw [Registry.record?_register ho.numbered hregister, if_neg]
    rintro rfl
    omega
  refine ⟨⟨?_, Nat.le_refl _, fun _ => rfl, fun _ => .inl, fun other hle _ => hold other hle⟩,
    .inr ⟨rfl, rfl, fun held hheld => hold held (ho.number_le hheld)⟩⟩
  rw [(Registry.register_ok hregister).2.2]
  exact Nat.le_succ _

/-- Taking back a handle that the service has given up. -/
theorem Accounted.unregister (ho : Accounted o)
    (hunregister : o.registry.unregister handle = .ok after)
    (hother : o.service.registration ≠ some handle) : Accounted ⟨o.service, after⟩ := by
  refine ⟨ho.numbered.unregister hunregister, ?_⟩
  intro held hheld
  have hlive := ho.live held hheld
  simp only [Registry.isRegistered] at hlive ⊢
  rw [Registry.record?_unregister hunregister]
  · exact hlive
  · rintro rfl
    exact hother hheld

theorem Accounted.update (ho : Accounted o)
    (hupdate : o.registry.update handle properties = .ok after) :
    Accounted ⟨o.service, after⟩ := by
  refine ⟨ho.numbered.update hupdate, ?_⟩
  intro held hheld
  have hlive := ho.live held hheld
  simp only [Registry.isRegistered] at hlive ⊢
  rw [Registry.record?_update hupdate]
  split
  next heq =>
    rw [← heq, Option.isSome_map]
    exact hlive
  next => exact hlive

/-- A call concerns only the record of a handle that was held at the beginning. -/
theorem Progress.answered (h : Progress o o')
    (hcount : after.registrations = o'.registry.registrations)
    (hheld : o.service.registration = some handle)
    (hothers : ∀ other, other ≠ handle → after.record? other = o'.registry.record? other) :
    Progress o ⟨o'.service, after⟩ where
  registrations := by rw [hcount]; exact h.registrations
  revision := h.revision
  visible := h.visible
  held := h.held
  others other hle hother := by
    rw [hothers other, h.others other hle hother]
    rintro rfl
    exact hother hheld

/-- A service that holds another handle than the one that a call concerns stays in step. -/
theorem InStep.answered (h : InStep o) (hother : o.service.registration ≠ some handle)
    (hothers : ∀ other, other ≠ handle → after.record? other = o.registry.record? other) :
    InStep ⟨o.service, after⟩ := by
  intro held hheld
  obtain ⟨record, hrecord, hshown⟩ := h held hheld
  refine ⟨record, ?_, hshown⟩
  rw [hothers held, hrecord]
  rintro rfl
  exact hother hheld

/-- A new handle that is recorded when the call that made it returns. Its record still
shows what was visible when the registry was called. -/
theorem recorded {record : ServiceRecord} (hop : Progress o p) (hpq : Progress p q)
    (hq : Accounted q) (hrecord : p.registry.record? handle = some record)
    (hshown : record.properties = o.service.visible)
    (hnew : o.registry.registrations < handle.number)
    (hreached : handle.number ≤ p.registry.registrations)
    (hother : p.service.registration ≠ some handle) :
    Accounted ⟨{ q.service with registration := some handle }, q.registry⟩ ∧
      Progress o ⟨{ q.service with registration := some handle }, q.registry⟩ ∧
      (q.service.revision = o.service.revision →
        InStep ⟨{ q.service with registration := some handle }, q.registry⟩) := by
  have hoq := hop.trans hpq
  -- Nobody else holds the handle before it is recorded, so its record has stayed.
  have hstill : q.registry.record? handle = some record := by
    rw [hpq.others handle hreached hother, hrecord]
  refine ⟨⟨hq.numbered, ?_⟩,
    ⟨hoq.registrations, hoq.revision, hoq.visible, ?_, hoq.others⟩, ?_⟩
  · intro held hheld
    cases hheld
    exact Option.isSome_of_eq_some hstill
  · intro held hheld
    cases hheld
    exact .inr hnew
  · intro hsame held hheld
    cases hheld
    exact ⟨record, hstill, hshown.trans (hoq.visible hsame).symm⟩

end Registering

end Offer

end Componentry.Service
